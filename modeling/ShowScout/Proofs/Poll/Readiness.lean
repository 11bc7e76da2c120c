import ShowScout.Poll.Poller

/-!
# Readiness

What it takes for a page to be ready for a rule, said of the answers that the page gives and not of
a look at it. The statements below tie the two together: a look finds an offer exactly on a page
that is ready for it.
-/

namespace ShowScout

namespace Rule

variable {r : Rule} {p : LivePage}

/-- The page holds the content that the rule waits for, if it waits for any. -/
def GateOpen (r : Rule) (p : LivePage) : Prop :=
  ∀ pattern ∈ r.contentPattern, ∃ text, p.body = .ok text ∧ pattern.isMatch text

/-- The page gives the content, the title and the element of an offer at once. -/
structure IsReady (r : Rule) (p : LivePage) (injection : Injection) : Prop where
  content : r.GateOpen p
  title : r.title? p = some injection.title
  target : p.locate r.injectionXpath = .ok (some injection.target)

theorem hasContent_iff : r.hasContent p ↔ r.GateOpen p := by
  unfold hasContent GateOpen
  cases r.contentPattern with
  | none => simp
  | some pattern => cases p.body <;> simp

instance (r : Rule) (p : LivePage) : Decidable (r.GateOpen p) :=
  decidable_of_iff _ hasContent_iff

theorem target?_eq_some_iff {node : Node} :
    r.target? p = some node ↔ p.locate r.injectionXpath = .ok (some node) := by
  unfold target?
  cases p.locate r.injectionXpath <;> simp [Except.toOption]

/-- What a tick finds on a page that is not ready. -/
def pending (r : Rule) (p : LivePage) : TickOutcome :=
  if r.GateOpen p then .notReady else .contentPending

theorem look_eq_found_iff {injection : Injection} :
    r.look p = .found injection ↔ r.IsReady p injection := by
  constructor
  · intro h
    unfold look at h
    split at h
    · rename_i hcontent
      unfold lookForTitle at h
      split at h
      · rename_i title target htitle htarget
        cases h
        exact ⟨hasContent_iff.1 hcontent, htitle, target?_eq_some_iff.1 htarget⟩
      · cases h
    · cases h
  · rintro ⟨hcontent, htitle, htarget⟩
    simp [look, lookForTitle, hasContent_iff.2 hcontent, htitle, target?_eq_some_iff.2 htarget]

theorem look_of_not_ready (h : ∀ injection, ¬ r.IsReady p injection) :
    r.look p = r.pending p := by
  have hfound : ∀ injection, r.look p ≠ .found injection :=
    fun injection hlook => h injection (look_eq_found_iff.1 hlook)
  unfold look at hfound ⊢
  simp only [pending, ← hasContent_iff]
  split
  · rename_i hcontent
    simp only [hcontent, if_true] at hfound
    unfold lookForTitle at hfound ⊢
    split
    · rename_i title target htitle htarget
      exact absurd (by simp [htitle, htarget]) (hfound { title, target })
    · rfl
  · rfl

end Rule

/-- Only a page that is ready gives an injection, and only to an attempt that is left. -/
theorem Poller.tick_eq_found {config : PollConfig} {rule : Rule} {page : LivePage}
    {p p' : Poller} {calls : List PageCall} {injection : Injection}
    (h : p.tick config rule page = .ok (p', calls, .found injection)) :
    p.attempts.toNat < config.maxAttempts.toNat ∧ rule.IsReady page injection := by
  by_cases hstate : p.state = .waiting
  · by_cases hlt : p.attempts.toNat < config.maxAttempts.toNat
    · rw [tick_of_lt hstate hlt] at h
      simp only [Except.ok.injEq, Prod.mk.injEq] at h
      exact ⟨hlt, Rule.look_eq_found_iff.1 h.2.2⟩
    -- beyond the last attempt there is no look at the page
    · by_cases hsize : p.attempts.toNat + 1 = UInt32.size
      · rw [tick_of_size hstate hsize] at h
        cases h
      · have hcount := p.attempts.toNat_lt
        rw [tick_of_le hstate (Nat.le_of_not_lt hlt) (by simp only [UInt32.size] at *; omega)] at h
        cases h
  · rw [tick_of_ne_waiting hstate] at h
    cases h

/-! ## A page that is ready -/

/-- Takes the heading of a page for the title, and makes the offer at the heading. -/
def Rule.heading : Rule where
  name := "Guide"
  host := "guide.example"
  extraction := .xpath "string(//h1)"
  injectionXpath := "//h1"

/-- A page with the text of a heading that is not yet rendered. -/
def LivePage.darkText : LivePage where
  page := { values := [("string(//h1)", " Dark ")] }

/-- A page with a heading. -/
def LivePage.darkHeading : LivePage :=
  LivePage.darkText.apply (.node "//h1" "h1")

def Injection.dark : Injection where
  title := "Dark"
  target := .ofTag "//h1" "h1"

theorem LivePage.darkHeading_isReady : Rule.heading.IsReady .darkHeading .dark where
  content := nofun
  title := by decide
  target := rfl

theorem LivePage.darkText_not_isReady (injection : Injection) :
    ¬ Rule.heading.IsReady .darkText injection := by
  rintro ⟨-, -, htarget⟩
  cases htarget

end ShowScout
