import ShowScout.Json.Fault

/-!
# What can be wrong with rules and settings
-/

namespace ShowScout

inductive RuleError where
  | missingIdentity
  | missingInjectionXpath (name : String)
  | noExtractionMethod (name : String)
  | conflictingExtractionMethods (name : String)
  | emptySelection
  | indexOutOfRange (index count : Nat)
  | unreadable (error : Json.Error)

def RuleError.message : RuleError → String
  | .missingIdentity => "Site name and site host are required"
  | .missingInjectionXpath name => "Injection XPath is required for rule '" ++ name ++ "'"
  | .noExtractionMethod name =>
    "Rule '" ++ name ++ "' must define a name extraction method (regex or XPath)"
  | .conflictingExtractionMethods name =>
    "Rule '" ++ name ++ "' must define only one name extraction method, not both"
  | .emptySelection => "No rules selected"
  | .indexOutOfRange index count =>
    "Rule index " ++ toString index ++ " out of range (" ++ toString count ++ " rules configured)"
  | .unreadable error => "Settings document error: " ++ error.message

end ShowScout
