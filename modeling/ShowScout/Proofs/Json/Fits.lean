import ShowScout.Json.Reader

/-!
# What readers give

A value that has been read is one that a document can hold: its numbers are in range, the members of
its objects are sorted, and it is nested no deeper than the reader allows.
-/

namespace ShowScout.Json

/-! ## Values that documents hold -/

/-- The number is one that a document can hold. -/
def Number.InRange : Number → Prop
  | .natural n => n < wordSize
  | .negative n => 0 < n ∧ n ≤ Nat.pow 2 63
  | .float _ => True

/-- The members are in the order of their keys, each key once. -/
def Members.Sorted (members : Members) : Prop :=
  members.Pairwise (·.1 < ·.1)

/-- The value is one that a document can hold with so many levels of nesting. -/
inductive Value.Fits : (levels : Nat) → Value → Prop
  | null (levels : Nat) : Fits levels .null
  | bool (levels : Nat) (b : Bool) : Fits levels (.bool b)
  | number (levels : Nat) {n : Number} : n.InRange → Fits levels (.number n)
  | text (levels : Nat) (s : String) : Fits levels (.text s)
  | list {levels : Nat} {items : List Value} :
      (∀ v ∈ items, Fits levels v) → Fits (levels + 1) (.list items)
  | object {levels : Nat} {members : Members} :
      members.Sorted → (∀ m ∈ members, Fits levels m.2) → Fits (levels + 1) (.object members)

/-! ## Sorted members -/

namespace Members

variable {members : Members} {key : String} {value : Value} {m : String × Value}

theorem eq_or_mem_of_mem_insert (h : m ∈ members.insert key value) :
    m = (key, value) ∨ m ∈ members := by
  induction members with
  | nil => exact .inl (List.mem_singleton.1 h)
  | cons member members ih =>
    obtain ⟨k, v⟩ := member
    rw [insert] at h
    split at h
    · exact List.mem_cons.1 h
    split at h
    · rcases List.mem_cons.1 h with rfl | h
      · exact .inl rfl
      · exact .inr (List.mem_cons_of_mem _ h)
    · rcases List.mem_cons.1 h with rfl | h
      · exact .inr (by simp)
      · exact (ih h).imp_right (List.mem_cons_of_mem _)

theorem Sorted.insert (h : members.Sorted) (key : String) (value : Value) :
    (members.insert key value).Sorted := by
  induction members with
  | nil => exact List.pairwise_singleton _ _
  | cons member members ih =>
    obtain ⟨k, v⟩ := member
    obtain ⟨hfirst, hrest⟩ := List.pairwise_cons.1 h
    rw [Members.insert]
    split
    · rename_i hlt
      refine List.pairwise_cons.2 ⟨fun m hm => ?_, h⟩
      rcases List.mem_cons.1 hm with rfl | hm
      · exact hlt
      · exact String.lt_trans hlt (hfirst m hm)
    split
    · rename_i heq
      subst heq
      exact List.pairwise_cons.2 ⟨hfirst, hrest⟩
    · rename_i hlt hne
      refine List.pairwise_cons.2 ⟨fun m hm => ?_, ih hrest⟩
      rcases eq_or_mem_of_mem_insert hm with rfl | hm
      · exact Std.lt_of_le_of_ne (String.not_lt.1 hlt) (Ne.symm hne)
      · exact hfirst m hm

/-- A key behind all others is put at the end. -/
theorem insert_of_forall_lt (h : ∀ m ∈ members, m.1 < key) :
    members.insert key value = members ++ [(key, value)] := by
  induction members with
  | nil => rfl
  | cons member members ih =>
    obtain ⟨k, v⟩ := member
    have hlt : k < key := h (k, v) (by simp)
    have hne : key ≠ k := by
      rintro rfl
      exact String.lt_irrefl _ hlt
    rw [insert, if_neg (String.lt_asymm hlt), if_neg hne, ih fun m hm => h m (by simp [hm])]
    rfl

end Members

/-! ## Results of readers -/

section Results

variable {α β γ : Type} {P : α → Prop} {Q : β → Prop}

/-- Whatever the reader gives has the property. -/
def Gives (P : α → Prop) (result : Except Fault (α × List Char)) : Prop :=
  ∀ x rest, result = .ok (x, rest) → P x

theorem gives_error (fault : Fault) : Gives P (.error fault) :=
  nofun

theorem gives_ok {x : α} (h : P x) (rest : List Char) : Gives P (.ok (x, rest)) := by
  rintro _ _ ⟨⟩
  exact h

theorem Gives.bind {result : Except Fault (α × List Char)}
    {next : α × List Char → Except Fault (β × List Char)} (h : Gives P result)
    (hnext : ∀ x s, P x → Gives Q (next (x, s))) : Gives Q (result >>= next) := by
  cases result with
  | error fault => exact gives_error fault
  | ok read =>
    obtain ⟨x, s⟩ := read
    exact hnext x s (h x s rfl)

/-- What is read in between does not matter. -/
theorem gives_bind {result : Except Fault γ} {next : γ → Except Fault (β × List Char)}
    (hnext : ∀ y, Gives Q (next y)) : Gives Q (result >>= next) := by
  cases result with
  | error fault => exact gives_error fault
  | ok y => exact hnext y

end Results

/-! ## Numbers -/

section Numbers

variable {negative : Bool} {n : Nat} {power : Int}

theorem floatOf_gives (rest : List Char) :
    Gives Number.InRange (floatOf negative n power rest) := by
  unfold floatOf
  split
  · exact gives_ok trivial _
  · exact gives_error _

theorem exponentDigits_gives (upwards : Bool) (e : Nat) (s : List Char) :
    Gives Number.InRange (exponentDigits negative n power upwards e s) := by
  induction s generalizing e with
  | nil => exact floatOf_gives []
  | cons c s ih =>
    unfold exponentDigits
    split
    · dsimp only
      split
      · exact ih _
      split
      · exact gives_error _
      · exact gives_ok trivial _
    · exact floatOf_gives _

theorem exponentPart_gives (s : List Char) :
    Gives Number.InRange (exponentPart negative n power s) := by
  unfold exponentPart
  split
  split
  · exact gives_error _
  split
  · exact exponentDigits_gives _ _ _
  · exact gives_error _

theorem afterFraction_gives (s : List Char) :
    Gives Number.InRange (afterFraction negative n power s) := by
  unfold afterFraction
  split
  · exact exponentPart_gives _
  · exact exponentPart_gives _
  · exact floatOf_gives _

theorem fractionDigits_gives (any : Bool) (s : List Char) :
    Gives Number.InRange (fractionDigits negative n power any s) := by
  induction s generalizing n power any with
  | nil =>
    unfold fractionDigits
    split
    · exact afterFraction_gives _
    · exact gives_error _
  | cons c s ih =>
    unfold fractionDigits
    split
    · dsimp only
      split
      · exact ih _
      · exact afterFraction_gives _
    split
    · exact afterFraction_gives _
    · exact gives_error _

theorem longInteger_gives (s : List Char) :
    Gives Number.InRange (longInteger negative n power s) := by
  induction s generalizing power with
  | nil => exact floatOf_gives []
  | cons c s ih =>
    unfold longInteger
    split
    · exact fractionDigits_gives _ _
    · split
      · rename_i heq _
        cases heq
        exact ih
      · exact afterFraction_gives _
    · exact floatOf_gives _

theorem integerOf_inRange (h : n < wordSize) : (integerOf negative n).InRange := by
  unfold integerOf
  split
  · exact h
  split
  · trivial
  split
  · rename_i hne hle
    exact ⟨Nat.pos_of_ne_zero hne, hle⟩
  · trivial

theorem afterInteger_gives (h : n < wordSize) (s : List Char) :
    Gives Number.InRange (afterInteger negative n s) := by
  unfold afterInteger
  split
  · exact fractionDigits_gives _ _
  · exact exponentPart_gives _
  · exact exponentPart_gives _
  · exact gives_ok (integerOf_inRange h) _

theorem integerDigits_gives (h : n < wordSize) (s : List Char) :
    Gives Number.InRange (integerDigits negative n s) := by
  induction s generalizing n with
  | nil => exact afterInteger_gives h []
  | cons c s ih =>
    unfold integerDigits
    split
    · dsimp only
      split
      · rename_i hsmall
        exact ih hsmall
      · exact longInteger_gives _
    · exact afterInteger_gives h _

theorem digitValue_lt {c : Char} (h : c.isDigit) : digitValue c < 10 := by
  simp only [Char.isDigit, Bool.and_eq_true, decide_eq_true_eq] at h
  have hle : c.toNat ≤ 57 := UInt32.le_iff_toNat_le.1 h.2
  exact Nat.sub_lt_left_of_lt_add (UInt32.le_iff_toNat_le.1 h.1) (Nat.lt_succ_of_le hle)

theorem number_gives (negative : Bool) (s : List Char) :
    Gives Number.InRange (number negative s) := by
  cases s with
  | nil => exact gives_error _
  | cons c s =>
    rw [number]
    split
    · split
      · exact gives_error _
      · exact afterInteger_gives (by decide) _
    split
    · rename_i hdigit
      exact integerDigits_gives (Nat.lt_trans (digitValue_lt hdigit) (by decide)) _
    · exact gives_error _

end Numbers

/-! ## Lists and objects -/

section Parts

variable {α σ : Type} {P : α → Prop} {item : List Char → Except Fault (α × List Char)}
  {I : σ → Prop} {member : String → σ → List Char → Except Fault (σ × List Char)}

theorem itemsFrom_gives (h : ∀ s, Gives P (item s)) (fuel : Nat) (isFirst : Bool) (s : List Char) :
    Gives (fun xs => ∀ x ∈ xs, P x) (itemsFrom item fuel isFirst s) := by
  induction fuel generalizing isFirst s with
  | zero =>
    rw [itemsFrom]
    exact gives_error _
  | succ fuel ih =>
    have hmore (s : List Char) : Gives (fun xs => ∀ x ∈ xs, P x) (itemsFrom.more item fuel s) := by
      rw [itemsFrom.more]
      refine (h s).bind fun x s hx => (ih false s).bind fun xs s hxs => gives_ok ?_ s
      exact List.forall_mem_cons.2 ⟨hx, hxs⟩
    unfold itemsFrom
    split
    · exact gives_error _
    split
    · exact gives_ok (List.forall_mem_nil P) _
    split
    · exact hmore _
    split
    · split
      · exact gives_error _
      split
      · exact gives_error _
      · exact hmore _
    · exact gives_error _

theorem listItems_gives (h : ∀ s, Gives P (item s)) (s : List Char) :
    Gives (fun xs => ∀ x ∈ xs, P x) (listItems item s) :=
  itemsFrom_gives h _ _ _

/-- What every member keeps is kept through all members of an object. -/
theorem membersFrom_gives (h : ∀ key collected s, I collected → Gives I (member key collected s))
    (fuel : Nat) (isFirst : Bool) {start : σ} (hstart : I start) (s : List Char) :
    Gives I (membersFrom member fuel isFirst start s) := by
  induction fuel generalizing isFirst start s with
  | zero => exact gives_error _
  | succ fuel ih =>
    unfold membersFrom
    refine gives_bind fun read => ?_
    obtain ⟨key, s⟩ := read
    cases key with
    | none => exact gives_ok hstart _
    | some key =>
      exact (h key start s hstart).bind fun next s hnext => ih false hnext s

theorem objectMembers_gives (h : ∀ key collected s, I collected → Gives I (member key collected s))
    {start : σ} (hstart : I start) (s : List Char) : Gives I (objectMembers member start s) :=
  membersFrom_gives h _ _ hstart s

theorem listOf_gives {r : Reader α} {levels : Nat} (h : ∀ s, Gives P (r levels s)) (s : List Char) :
    Gives (fun xs => ∀ x ∈ xs, P x) (listOf r (levels + 1) s) := by
  unfold listOf
  split
  · exact gives_error _
  split
  · exact listItems_gives h _
  · exact gives_error _

end Parts

/-! ## Values of free form -/

theorem scalar_gives (levels : Nat) (c : Char) (s : List Char) :
    Gives (Value.Fits levels) (scalar c s) := by
  unfold scalar
  split
  · exact gives_bind fun s => gives_ok (.null levels) s
  split
  · exact gives_bind fun s => gives_ok (.bool levels true) s
  split
  · exact gives_bind fun s => gives_ok (.bool levels false) s
  split
  · exact (number_gives true s).bind fun n s hn => gives_ok (.number levels hn) s
  split
  · exact (number_gives false (c :: s)).bind fun n s hn => gives_ok (.number levels hn) s
  split
  · refine gives_bind fun read => ?_
    obtain ⟨x, s⟩ := read
    exact gives_ok (.text levels x) s
  · exact gives_error _

/-- Members with the given keys left out, as they are collected for an object or a record. -/
structure Members.Collected (known : List String) (levels : Nat) (members : Members) : Prop where
  sorted : members.Sorted
  unknown : ∀ m ∈ members, m.1 ∉ known
  fits : ∀ m ∈ members, m.2.Fits levels

theorem Members.Collected.nil (known : List String) (levels : Nat) :
    Members.Collected known levels [] :=
  ⟨.nil, nofun, nofun⟩

theorem Members.Collected.insert {known : List String} {levels : Nat} {members : Members}
    {key : String} {value : Value} (h : members.Collected known levels) (hkey : key ∉ known)
    (hvalue : value.Fits levels) : (members.insert key value).Collected known levels where
  sorted := h.sorted.insert key value
  unknown m hm := by
    rcases eq_or_mem_of_mem_insert hm with rfl | hm
    · exact hkey
    · exact h.unknown m hm
  fits m hm := by
    rcases eq_or_mem_of_mem_insert hm with rfl | hm
    · exact hvalue
    · exact h.fits m hm

/-- Every value that is read fits the levels that were left for it. -/
theorem anything_gives (levels : Nat) (s : List Char) :
    Gives (Value.Fits levels) (anything levels s) := by
  -- the parts of a list or an object have one level less than it has
  induction levels generalizing s with
  | zero =>
    unfold anything
    split
    · exact gives_error _
    split
    · exact gives_error _
    split
    · exact gives_error _
    · exact scalar_gives 0 _ _
  | succ levels ih =>
    unfold anything
    split
    · exact gives_error _
    split
    · exact (listItems_gives ih _).bind fun items s hitems => gives_ok (.list hitems) s
    split
    · refine (objectMembers_gives (I := Members.Collected [] levels) ?_ (.nil [] levels) _).bind
        fun members s hmembers => gives_ok (.object hmembers.sorted hmembers.fits) s
      intro key members s hmembers
      refine gives_bind fun s => (ih s).bind fun value s hvalue => ?_
      exact gives_ok (hmembers.insert (List.not_mem_nil) hvalue) s
    · exact scalar_gives (levels + 1) _ _

/-! ## Records -/

section Records

variable {σ : Type} {r : Record σ} {levels : Nat} {I : σ → Prop}

theorem ofSetter_gives {α : Type} {P : α → Prop} {get : σ → Option α} {reader : Reader α}
    {set : α → σ → σ} {d : σ} {s : List Char} (h : Gives P (reader levels s))
    (hset : ∀ x, P x → I (set x d)) :
    Gives (fun change => I (change d)) ((Field.ofSetter get reader set).read levels s) :=
  h.bind fun x s hx => gives_ok (P := fun change : σ → σ => I (change d)) (hset x hx) s

/-- What every field keeps, and every member of another key, is kept by a record as a whole. -/
theorem record_gives (hstart : I r.start)
    (hfield : ∀ {key field d} s, r.field? key = some field → I d →
      Gives (fun change => I (change d)) (field.read levels s))
    (hother : ∀ {key value d}, (r.field? key).isNone → value.Fits levels → I d →
      I (r.other key value d))
    (s : List Char) : Gives I (record r (levels + 1) s) := by
  have hmember (key : String) (d : σ) (s : List Char) (hd : I d) :
      Gives I (r.member levels key d s) := by
    unfold Record.member
    split
    · rename_i field hkey
      split
      · exact gives_error _
      · exact gives_bind fun s => (hfield s hkey hd).bind fun change s hchange => gives_ok hchange s
    · rename_i hkey
      refine gives_bind fun s => (anything_gives levels s).bind fun value s hvalue => ?_
      exact gives_ok (hother (by rw [hkey]; rfl) hvalue hd) s
  unfold record
  split
  · exact gives_error _
  split
  · exact objectMembers_gives hmember hstart _
  · exact gives_error _

end Records

/-- What a reader gives holds of what a document is read as. -/
theorem readDocument_gives {α : Type} {P : α → Prop} {r : Reader α} {source : String} {x : α}
    (h : ∀ s, Gives P (r levelLimit s)) (hread : readDocument r source = .ok x) : P x := by
  unfold readDocument at hread
  dsimp only at hread
  split at hread
  · cases hread
  · rename_i y rest heq
    split at hread
    · cases hread
      exact h _ _ _ heq
    · cases hread

end ShowScout.Json
