import ShowScout.Command.Configuration
import ShowScout.Proofs.Poll.Ticks

/-!
# The counter of attempts

The attempts are counted in 32 bits, and the tick that gives up counts one more than are allowed. On
pages that are not ready every tick counts until then, so that the counter goes up to one above the
limit and stays there. Only the largest limit leaves no room for that one.
-/

namespace ShowScout

namespace Poller

/-- What is to be seen of a poller from outside: the attempts started, and the state. -/
def view (p : Poller) : Nat × PollState :=
  (p.attempts.toNat, p.state)

variable {config : PollConfig} {rule : Rule} {page : LivePage} {pages rest : List LivePage}

theorem view_after {n : Nat} {state : PollState} (h : n < UInt32.size) :
    (after n state).view = (n, state) := by
  rw [view, toNat_attempts_after h]
  rfl

/-! ## Up to the limit -/

theorem map_view_waits (hlen : pages.length ≤ config.maxAttempts.toNat) :
    (waits rule 0 pages).map (·.2.view) = pages.mapIdx fun k _ => (k + 1, .waiting) := by
  have hmax := config.maxAttempts.toNat_lt
  refine List.ext_getElem (by simp [waits]) fun k hk hk' => ?_
  rw [List.length_mapIdx] at hk'
  simp only [waits, List.getElem_map, List.getElem_mapIdx, Nat.zero_add]
  exact view_after (by simp only [UInt32.size]; omega)

/-! ## Beyond the limit -/

/-- What is to be seen of a poller after each tick on pages that are not ready. -/
def counts (config : PollConfig) (pages : List LivePage) : List (Nat × PollState) :=
  pages.mapIdx fun k _ =>
    if k < config.maxAttempts.toNat then (k + 1, .waiting)
    else (config.maxAttempts.toNat + 1, .exhausted)

theorem counts_of_le (hlen : pages.length ≤ config.maxAttempts.toNat) :
    counts config pages = pages.mapIdx fun k _ => (k + 1, .waiting) := by
  refine List.mapIdx_eq_mapIdx_iff.2 fun k hk => ?_
  rw [if_pos (Nat.lt_of_lt_of_le hk hlen)]

theorem counts_append (hlen : pages.length = config.maxAttempts.toNat) :
    counts config (pages ++ rest) =
      counts config pages ++
        List.replicate rest.length (config.maxAttempts.toNat + 1, .exhausted) := by
  have hrest : (rest.mapIdx fun k (_ : LivePage) =>
      if k + pages.length < config.maxAttempts.toNat then (k + pages.length + 1, PollState.waiting)
      else (config.maxAttempts.toNat + 1, .exhausted)) =
      List.replicate rest.length (config.maxAttempts.toNat + 1, .exhausted) := by
    refine List.ext_getElem (by simp) fun k hk _ => ?_
    simp [hlen]
  rw [counts, List.mapIdx_append, hrest]
  rfl

theorem map_view_rests (p : Poller) (pages : List LivePage) :
    (p.rests pages).map (·.2.view) = List.replicate pages.length p.view := by
  rw [rests, List.map_map]
  exact List.map_const'

/-- More pages than there may be attempts are those looked at, the one at whose tick the poller
gives up, and the others. -/
theorem exists_split_of_lt (hlt : config.maxAttempts.toNat < pages.length) :
    ∃ first page rest, pages = first ++ page :: rest ∧
      first.length = config.maxAttempts.toNat := by
  refine ⟨pages.take config.maxAttempts.toNat, pages[config.maxAttempts.toNat],
    pages.drop (config.maxAttempts.toNat + 1), ?_, List.length_take_of_le (Nat.le_of_lt hlt)⟩
  rw [← List.drop_eq_getElem_cons hlt, List.take_append_drop]

section Beyond

variable (hready : ∀ page ∈ pages, ∀ i, ¬ rule.IsReady page i)
  (hlen : pages.length = config.maxAttempts.toNat)
include hready hlen

theorem ticks_append_of_max :
    ticks config rule {} (pages ++ page :: rest) =
      ((after config.maxAttempts.toNat).ticks config rule (page :: rest)).map
        (waits rule 0 pages ++ ·) := by
  rw [show ({} : Poller) = after 0 from rfl, ticks_append_of_not_ready hready (by omega),
    Nat.zero_add, hlen]

/-- The largest limit is also the largest count, so that giving up cannot be counted. -/
theorem ticks_overflow (hmax : config.maxAttempts.toNat + 1 = UInt32.size) :
    ticks config rule {} (pages ++ page :: rest) = .error .attemptOverflow := by
  have hn : (after config.maxAttempts.toNat).attempts.toNat = config.maxAttempts.toNat :=
    toNat_attempts_after config.maxAttempts.toNat_lt
  rw [ticks_append_of_max hready hlen, ticks, tick_of_size rfl (by rwa [hn])]
  rfl

theorem ticks_give_up (hmax : config.maxAttempts.toNat + 1 < UInt32.size) :
    ∃ found, ticks config rule {} (pages ++ page :: rest) = .ok found ∧
      found.map (·.2.view) = counts config (pages ++ page :: rest) := by
  refine ⟨_, (ticks_append_of_max hready hlen).trans (by rw [ticks_cons_of_max hmax]; rfl), ?_⟩
  rw [counts_append hlen, counts_of_le (Nat.le_of_eq hlen), List.map_append, List.map_cons,
    map_view_waits (Nat.le_of_eq hlen), map_view_rests, view_after hmax]
  rfl

end Beyond

theorem darkText_not_ready (n : Nat) :
    ∀ page ∈ List.replicate n LivePage.darkText, ∀ i, ¬ Rule.heading.IsReady page i := by
  intro page hpage
  rw [List.eq_of_mem_replicate hpage]
  exact LivePage.darkText_not_isReady

/-- On pages that are not ready, the counter goes up with each tick to one above the limit, where
the poller gives up, and stays there. Counting fails at the tick after the last attempt, and only if
the limit is the largest number. -/
theorem ticks_counted (hready : ∀ page ∈ pages, ∀ i, ¬ rule.IsReady page i) :
    (config.maxAttempts.toNat + 1 = UInt32.size ∧ config.maxAttempts.toNat < pages.length →
      ticks config rule {} pages = .error .attemptOverflow) ∧
    (config.maxAttempts.toNat + 1 < UInt32.size ∨ pages.length ≤ config.maxAttempts.toNat →
      ∃ found, ticks config rule {} pages = .ok found ∧
        found.map (·.2.view) = counts config pages) := by
  by_cases hle : pages.length ≤ config.maxAttempts.toNat
  · refine ⟨fun hlarge => absurd hle (Nat.not_le.2 hlarge.2), fun _ => ?_⟩
    refine ⟨waits rule 0 pages, ticks_of_not_ready (n := 0) hready (by omega), ?_⟩
    rw [map_view_waits hle, counts_of_le hle]
  · obtain ⟨first, page, rest, rfl, hlen⟩ := exists_split_of_lt (Nat.lt_of_not_le hle)
    have hfirst : ∀ page ∈ first, ∀ i, ¬ rule.IsReady page i :=
      fun page hpage => hready page (List.mem_append_left _ hpage)
    refine ⟨fun hlarge => ticks_overflow hfirst hlen hlarge.1, fun hroom => ?_⟩
    exact ticks_give_up hfirst hlen (hroom.resolve_right hle)

/-- One attempt is allowed, or as many as can be counted. -/
theorem ticks_counted_darkText :
    (∃ found,
      ticks { maxAttempts := 1 } .heading {} [.darkText, .darkText, .darkText] = .ok found ∧
      found.map (·.2.view) = [(1, .waiting), (2, .exhausted), (2, .exhausted)]) ∧
    ticks { maxAttempts := .ofNat (UInt32.size - 1) } .heading {}
        (List.replicate UInt32.size .darkText) = .error .attemptOverflow := by
  constructor
  · exact (@ticks_counted { maxAttempts := 1 } _ _ (darkText_not_ready 3)).2 (.inl (by decide))
  · refine (@ticks_counted { maxAttempts := .ofNat (UInt32.size - 1) } _ _
      (darkText_not_ready UInt32.size)).1 ⟨by decide, ?_⟩
    rw [List.length_replicate]
    decide

/-- The most attempts that the command line takes. -/
def mostAttempts : Arguments where
  maxAttempts := 4294967295
  command := .extract "u"

/-- The most attempts that the command line takes are too many to be counted. -/
theorem not_ticks_counted_of_mostAttempts :
    ¬ ∀ (words : List String) (args : Arguments) (settings : Settings) (rule : Rule)
        (pages : List LivePage), Arguments.parse words = .ok args →
        (∀ page ∈ pages, ∀ i, ¬ rule.IsReady page i) →
        ∃ found, ticks (Configuration.ofArguments args settings).poll rule {} pages =
          .ok found := by
  intro h
  have hparse : Arguments.parse ["--max-attempts", "4294967295", "extract", "u"] =
      .ok mostAttempts := rfl
  have hready := darkText_not_ready UInt32.size
  obtain ⟨found, hfound⟩ := h _ _ {} .heading _ hparse hready
  have hlt : (Configuration.ofArguments mostAttempts {}).poll.maxAttempts.toNat <
      (List.replicate UInt32.size LivePage.darkText).length := by
    rw [List.length_replicate]
    decide
  -- the tick after the last of so many attempts cannot be counted
  obtain ⟨first, page, rest, hpages, hlen⟩ := exists_split_of_lt hlt
  rw [hpages] at hready hfound
  rw [ticks_overflow (fun q hq => hready q (List.mem_append_left _ hq)) hlen rfl] at hfound
  cases hfound

end Poller

end ShowScout
