import ShowScout.Proofs.Web.Name
import ShowScout.Web.Host

/-!
# Texts of hosts

A host is shown either as a name or as an address in brackets. Nothing in it ends an authority, and
a colon stands in brackets only, so that a host is found again in front of a port and a path.
-/

namespace ShowScout.Web

variable {c : Char} {n : Nat}

/-! ## Numbers -/

theorem mem_toDigits {b : Nat} (hb : 1 < b) (h : c ∈ Nat.toDigits b n) :
    ∃ d < b, c = d.digitChar := by
  induction n using Nat.strongRecOn with
  | ind n ih =>
    by_cases hn : n < b
    · rw [Nat.toDigits_of_lt_base hn] at h
      exact ⟨n, hn, List.mem_singleton.1 h⟩
    · have hle : b ≤ n := Nat.le_of_not_lt hn
      rw [Nat.toDigits_of_base_le hb hle] at h
      obtain h | h := List.mem_append.1 h
      · exact ih (n / b) (Nat.div_lt_self (by omega) hb) h
      · exact ⟨n % b, Nat.mod_lt n (by omega), List.mem_singleton.1 h⟩

theorem isNameChar_of_mem_toDigits {b : Nat} (hb : 1 < b) (hle : b ≤ 16)
    (h : c ∈ Nat.toDigits b n) : isNameChar c := by
  have hdigits : ∀ d < 16, isNameChar d.digitChar := by decide
  obtain ⟨d, hd, rfl⟩ := mem_toDigits hb h
  exact hdigits d (Nat.lt_of_lt_of_le hd hle)

/-- A number that is written in decimal is read as itself. -/
theorem digitsValue?_decimal (n : Nat) : digitsValue? 10 (decimal n) = some n := by
  have hdigit : ∀ d < 10, hexDigit? d.digitChar = some d := by decide
  induction n using Nat.strongRecOn with
  | ind n ih =>
    by_cases hn : n < 10
    · simp [decimal, Nat.toDigits_of_lt_base hn, digitsValue?, hdigit n hn, guard, hn]
    · have hle : 10 ≤ n := Nat.le_of_not_lt hn
      have hlast := Nat.mod_lt n (show 0 < 10 by decide)
      have hrest := ih (n / 10) (Nat.div_lt_self (by omega) (by decide))
      unfold digitsValue? decimal at hrest ⊢
      rw [Nat.toDigits_of_base_le (by decide) hle, List.foldlM_append, hrest]
      simp [hdigit _ hlast, guard, hlast, Nat.div_add_mod']

/-! ## Hosts -/

/-- How hosts are written: as a name, or as words in brackets. -/
def IsHostText (s : List Char) : Prop :=
  (s ≠ [] ∧ ∀ c ∈ s, isNameChar c) ∨
    ∃ inner, s = '[' :: (inner ++ [']']) ∧ ∀ c ∈ inner, c = ':' ∨ isNameChar c

theorem IsHostText.ne_nil {s : List Char} (h : IsHostText s) : s ≠ [] := by
  obtain ⟨hne, -⟩ | ⟨inner, rfl, -⟩ := h
  · exact hne
  · exact List.cons_ne_nil _ _

theorem isHostText_ipv4Text (address : Nat) : IsHostText (ipv4Text address) := by
  refine .inl ⟨?_, fun c hc => ?_⟩
  · rw [ipv4Text, List.intercalate_cons_of_ne_nil (by simp)]
    simp
  · obtain hc | ⟨part, hpart, hc⟩ := of_mem_intercalate hc
    · obtain rfl := List.mem_singleton.1 hc
      decide
    · obtain ⟨n, rfl⟩ : ∃ n, part = decimal n := by
        simp only [List.mem_cons, List.not_mem_nil, or_false] at hpart
        obtain rfl | rfl | rfl | rfl := hpart <;> exact ⟨_, rfl⟩
      exact isNameChar_of_mem_toDigits (by decide) (by decide) hc

theorem mem_wordsText {words : List Nat} (h : c ∈ wordsText words) : c = ':' ∨ isNameChar c := by
  obtain h | ⟨part, hpart, h⟩ := of_mem_intercalate h
  · exact .inl (List.mem_singleton.1 h)
  · obtain ⟨word, -, rfl⟩ := List.mem_map.1 hpart
    exact .inr (isNameChar_of_mem_toDigits (by decide) (by decide) h)

theorem mem_ipv6Text {words : List Nat} (h : c ∈ ipv6Text words) : c = ':' ∨ isNameChar c := by
  unfold ipv6Text at h
  dsimp only at h
  split at h
  · exact mem_wordsText h
  · simp only [List.mem_append, List.mem_cons, List.not_mem_nil, or_false, or_self] at h
    obtain (h | h) | h := h
    · exact mem_wordsText h
    · exact .inl h
    · exact mem_wordsText h

theorem Host.isHostText_of_ofName {name : List Char} {host : Host}
    (h : Host.ofName name = .ok host) (hname : ∀ c ∈ name, isNameChar c) :
    IsHostText host.toText := by
  unfold Host.ofName at h
  split at h
  · cases h
  · rename_i hne
    split at h
    · split at h
      · cases h
        exact isHostText_ipv4Text _
      · cases h
    · cases h
      exact .inl ⟨fun h => hne (List.isEmpty_iff.2 h), hname⟩

/-- What is read as a host is shown as one. -/
theorem Host.isHostText_of_parse {s : List Char} {host : Host} (h : Host.parse s = .ok host) :
    IsHostText host.toText := by
  unfold Host.parse at h
  split at h
  · unfold Host.ofBracketed at h
    split at h
    · cases h
      exact .inr ⟨_, rfl, fun _ => mem_ipv6Text⟩
    · cases h
  · split at h
    · rename_i name hname
      obtain ⟨decoded, -, hname⟩ := Option.bind_eq_some_iff.1 hname
      exact isHostText_of_ofName h (isNameChar_of_asciiDomain? hname)
    · cases h

end ShowScout.Web
