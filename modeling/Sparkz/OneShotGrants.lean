import Sparkz.InterleavingPast

namespace Interleaving

/-!
# Grants that are used once

Some events grant the right to one later use.  When a protocol allows a use
only after a grant of the same call that no use has followed yet, no run has
more uses than grants, however its calls are interleaved.  A grant that makes
something present which was absent before, and which then stays, is given once.
-/

variable {S : Signature}

/-- A use follows a grant with no other use in between. -/
def UsesGrants
    (permits : Protocol S)
    (grants uses : Event S → Bool) :
    Prop :=
  ∀ past op answer,
    permits past op →
    uses ⟨op, answer⟩ = true →
    ∃ between granted earlier,
      past = between ++ granted :: earlier ∧
        grants granted = true ∧
        uses granted = false ∧
        ∀ event ∈ between, uses event = false

namespace ExtendsBy

variable {permits : Protocol S}
  {grants uses : Event S → Bool}
  {past later earlier : List (Event S)}

/-- What was permitted from the beginning was so up to each point. -/
theorem of_append (extended : ExtendsBy permits [] (later ++ earlier)) :
    ExtendsBy permits [] earlier := by
  induction later with
  | nil =>
      exact extended
  | cons newest later inductionHypothesis =>
      apply inductionHypothesis
      cases extended with
      | perform before _ _ =>
          exact before

/-- What a call has done was permitted by what it had done before. -/
theorem permitted_before
    (extended : ExtendsBy permits [] past)
    {event : Event S}
    (member : event ∈ past) :
    ∃ earlier, permits earlier event.op ∧ earlier ⊆ past := by
  obtain ⟨later, earlier, rfl⟩ := List.append_of_mem member
  have upTo : ExtendsBy permits [] (event :: earlier) :=
    of_append extended
  cases upTo with
  | perform before permitted answer =>
      exact
        ⟨earlier, permitted, fun _ isEarlier =>
          List.mem_append_right _ (List.mem_cons_of_mem _ isEarlier)⟩

/-- One call has no more uses than grants. -/
theorem uses_le_grants
    (usesGrants : UsesGrants permits grants uses)
    (extended : ExtendsBy permits [] past) :
    past.countP uses ≤ past.countP grants := by
  -- the past before the grant of the newest use is shorter
  induction isLength : past.length using Nat.strongRecOn
    generalizing past with
  | ind length inductionHypothesis =>
      cases extended with
      | none =>
          exact Nat.le_refl _
      | @perform reached op before permitted answer =>
          rw [List.length_cons] at isLength
          cases isUse : uses ⟨op, answer⟩ with
          | false =>
              have fewer :=
                inductionHypothesis reached.length (by omega) before rfl
              rw [List.countP_cons_of_neg (by simp [isUse])]
              exact
                Nat.le_trans fewer
                  ((List.sublist_cons_self _ _).countP_le)
          | true =>
              obtain ⟨between, granted, earlier, rfl, isGrant, notUse,
                unused⟩ := usesGrants _ _ _ permitted isUse
              have noUse : between.countP uses = 0 :=
                List.countP_eq_zero.mpr fun event member => by
                  simp [unused event member]
              have upToGrant :
                  ExtendsBy permits []
                    ((between ++ [granted]) ++ earlier) := by
                rwa [List.append_assoc]
              have fewer :=
                inductionHypothesis earlier.length
                  (by
                    rw [List.length_append, List.length_cons] at isLength
                    omega)
                  (ExtendsBy.of_append upToGrant) rfl
              rw [List.countP_cons_of_pos isUse, List.countP_append,
                noUse, List.countP_cons_of_neg (by simp [notUse])]
              have counted :
                  (granted :: earlier).countP grants =
                    earlier.countP grants + 1 :=
                List.countP_cons_of_pos isGrant
              have atLeast :
                  (granted :: earlier).countP grants ≤
                    (⟨op, answer⟩ ::
                      (between ++ granted :: earlier)).countP grants :=
                ((List.sublist_append_right _ _).cons _).countP_le
              omega

end ExtendsBy

/-! ## Over all calls of a run -/

/-- The entry without its call. -/
def Entry.event (entry : Entry S) : Event S :=
  ⟨entry.op, entry.answer⟩

/-- The events of one call are counted among its entries. -/
theorem countP_ownPast
    (counts : Event S → Bool)
    (thread : Nat)
    (history : List (Entry S)) :
    (ownPast thread history).countP counts =
      (history.filter fun entry => entry.thread == thread).countP
        fun entry => counts entry.event := by
  induction history with
  | nil =>
      rfl
  | cons entry earlier inductionHypothesis =>
      by_cases own : entry.thread = thread
      · simp [ownPast, own, List.countP_cons, inductionHypothesis,
          Entry.event]
      · simp [ownPast, own, inductionHypothesis]

/-- Leaving the entries of one call out leaves it no past. -/
theorem ownPast_filter_self
    (owner : Nat)
    (history : List (Entry S)) :
    ownPast owner
        (history.filter fun entry => !(entry.thread == owner)) =
      [] := by
  induction history with
  | nil =>
      rfl
  | cons entry earlier inductionHypothesis =>
      by_cases isOwner : entry.thread = owner
      · simp [isOwner, inductionHypothesis]
      · simp [isOwner, ownPast, inductionHypothesis]

/-- Leaving the entries of one call out leaves the other calls as they are. -/
theorem ownPast_filter_ne
    {owner thread : Nat}
    (other : thread ≠ owner)
    (history : List (Entry S)) :
    ownPast thread
        (history.filter fun entry => !(entry.thread == owner)) =
      ownPast thread history := by
  induction history with
  | nil =>
      rfl
  | cons entry earlier inductionHypothesis =>
      by_cases isOwner : entry.thread = owner
      · have foreign : entry.thread ≠ thread := by
          rw [isOwner]
          exact Ne.symm other
        simp [isOwner, ownPast, inductionHypothesis,
          show ¬ owner = thread from fun same => other same.symm]
      · simp [isOwner, ownPast, inductionHypothesis]

/-- What holds of the counts of every call holds of the whole history. -/
theorem countP_le_of_ownPast
    {fewer more : Event S → Bool}
    (history : List (Entry S))
    (each :
      ∀ thread,
        (ownPast thread history).countP fewer ≤
          (ownPast thread history).countP more) :
    history.countP (fun entry => fewer entry.event) ≤
      history.countP fun entry => more entry.event := by
  -- one call after the other is taken out of the history
  induction isLength : history.length using Nat.strongRecOn
    generalizing history with
  | ind length inductionHypothesis =>
      cases history with
      | nil =>
          exact Nat.le_refl _
      | cons newest earlier =>
          have ownCount := each newest.thread
          rw [countP_ownPast, countP_ownPast] at ownCount
          have othersCount :=
            inductionHypothesis
              ((newest :: earlier).filter fun entry =>
                !(entry.thread == newest.thread)).length
              (by
                have shorter :=
                  List.length_filter_le
                    (fun entry => !(entry.thread == newest.thread)) earlier
                rw [List.length_cons] at isLength
                simp only [List.filter_cons, beq_self_eq_true, Bool.not_true,
                  Bool.false_eq_true, if_false]
                omega)
              _
              (by
                intro thread
                by_cases own : thread = newest.thread
                · rw [own, ownPast_filter_self]
                  exact Nat.le_refl _
                · rw [ownPast_filter_ne own]
                  exact each thread)
              rfl
          have both := Nat.add_le_add ownCount othersCount
          rw [← List.countP_eq_countP_filter_add,
            ← List.countP_eq_countP_filter_add] at both
          exact both

namespace ReachableWhen

variable {ε σ : Type}
  {semantics : Semantics S σ}
  {meets : Config S ε σ → Entry S → Prop}
  {permits : Nat → Protocol S}
  {post : Nat → Except ε Unit → List (Event S) → Prop}
  {shared : σ} {calls : Nat → Program S ε Unit}
  {start config : Config S ε σ}
  {grants uses : Event S → Bool}

/-- Every operation of a call was permitted by what the call had done. -/
theorem extendsBy
    (conforming :
      ∀ thread,
        (calls thread).Obeys (permits thread) [] (post thread))
    (reached :
      ReachableWhen semantics meets (.initial shared calls) config)
    (thread : Nat) :
    ExtendsBy (permits thread) [] (ownPast thread config.history) := by
  refine
    reached.invariant
      (fun _ history =>
        ExtendsBy (permits thread) [] (ownPast thread history))
      .none (fun _ => id) ?_
  intro before owner op rest choice answer next reachedBefore running _ _
    extended
  by_cases own : owner = thread
  · subst own
    rw [ownPast_own]
    exact extended.perform (reachedBefore.permitted conforming running) answer
  · rw [ownPast_foreign own]
    exact extended

/-- No run has more uses than grants. -/
theorem uses_le_grants
    (conforming :
      ∀ thread,
        (calls thread).Obeys (permits thread) [] (post thread))
    (usesGrants : ∀ thread, UsesGrants (permits thread) grants uses)
    (reached :
      ReachableWhen semantics meets (.initial shared calls) config) :
    config.history.countP (fun entry => uses entry.event) ≤
      config.history.countP fun entry => grants entry.event :=
  countP_le_of_ownPast config.history fun thread =>
    (reached.extendsBy conforming thread).uses_le_grants
      (usesGrants thread)

/-- What makes something present that stays is done at most once. -/
theorem countP_le_one
    (Present : σ → Prop)
    (counts : Entry S → Bool)
    (noneYet : start.history.countP counts = 0)
    (atStop :
      ∀ {shared} (thread : Nat),
        Present shared → Present (semantics.stop thread shared))
    (atStep :
      ∀ {thread : Nat} {op : S.Op} {choice : semantics.Choice}
        {before after : σ} {answer : S.Answer op},
        semantics.respond thread op choice before = some (answer, after) →
        (Present before → Present after) ∧
          (counts ⟨thread, op, answer⟩ = true →
            ¬ Present before ∧ Present after))
    (reached : ReachableWhen semantics meets start config) :
    config.history.countP counts ≤ 1 := by
  have counted :
      config.history.countP counts = 0 ∨
        config.history.countP counts = 1 ∧ Present config.shared := by
    refine
      reached.invariant
        (fun shared history =>
          history.countP counts = 0 ∨
            history.countP counts = 1 ∧ Present shared)
        (Or.inl noneYet) ?_ ?_
    · rintro shared history thread (isNone | ⟨isOne, present⟩)
      · exact Or.inl isNone
      · exact Or.inr ⟨isOne, atStop thread present⟩
    · intro before thread op rest choice answer next _ _ answered _ soFar
      obtain ⟨stays, makes⟩ := atStep answered
      cases isCounted : counts ⟨thread, op, answer⟩ with
      | true =>
          obtain ⟨absent, present⟩ := makes isCounted
          rcases soFar with isNone | ⟨_, wasPresent⟩
          · exact
              Or.inr
                ⟨by rw [List.countP_cons_of_pos isCounted, isNone],
                  present⟩
          · exact absurd wasPresent absent
      | false =>
          rw [List.countP_cons_of_neg (by simp [isCounted])]
          exact soFar.imp id fun one => ⟨one.1, stays one.2⟩
  rcases counted with isNone | ⟨isOne, _⟩
  · exact isNone ▸ Nat.zero_le 1
  · exact Nat.le_of_eq isOne

end ReachableWhen

end Interleaving
