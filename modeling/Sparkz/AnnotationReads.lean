import Sparkz.AnnotationAgreement
import Sparkz.AnnotationCalls

namespace Sparkz

open Interleaving

/-!
# What a call learns from the evidence

A call reads the subject and the referenced rows one statement after another.
What it concludes holds in every state of the tables that gives the answers it
has received.
-/

/-- A part of a call that only reads the evidence. -/
def readsOnly : Protocol annotationDatabase :=
  fun _ op => ∃ query, op = .read query

/-- The tables give every answer that a call has received. -/
def Evidence.Explains
    (evidence : Evidence)
    (past : List (Event annotationDatabase)) :
    Prop :=
  ∀ query result,
    (⟨.read query, .ok result⟩ : Event annotationDatabase) ∈ past →
      evidence.Answers query result

/-- Tables that explain a past explain what came before it. -/
theorem Evidence.Explains.earlier
    {evidence : Evidence}
    {past reached : List (Event annotationDatabase)}
    (explains : evidence.Explains reached)
    (grown : past ⊆ reached) :
    evidence.Explains past := by
  intro query result member
  exact explains query result (grown member)

/--
A part of a call only reads, and what it returns is what all tables that
explain its answers say.
-/
def Reads
    {α : Type}
    (program : AnnotationProgram α)
    (tells : Evidence → α → Prop) :
    Prop :=
  ∀ past,
    program.Obeys readsOnly past fun result reached =>
      past ⊆ reached ∧
        ∀ value,
          result = .ok value →
          ∀ evidence : Evidence, evidence.Explains reached →
            tells evidence value

namespace Reads

variable {α β : Type}

theorem done
    {value : α}
    {tells : Evidence → α → Prop}
    (said : ∀ evidence, tells evidence value) :
    Reads (.done value) tells := by
  intro past
  refine ⟨List.Subset.refl past, ?_⟩
  intro result isValue evidence _
  cases isValue
  exact said evidence

theorem fail
    {error : AnnotationFailure}
    {tells : Evidence → α → Prop} :
    Reads (.fail error) tells := by
  intro past
  refine ⟨List.Subset.refl past, ?_⟩
  intro value impossible
  cases impossible

/-- A part that reads on says what its continuation says. -/
theorem bind
    {program : AnnotationProgram α}
    {next : α → AnnotationProgram β}
    {tells : Evidence → α → Prop}
    {tellsNext : Evidence → β → Prop}
    (first : Reads program tells)
    (second :
      ∀ value,
        Reads (next value) fun evidence result =>
          tells evidence value → tellsNext evidence result) :
    Reads (program >>= next) tellsNext := by
  intro past
  rw [Program.obeys_bind]
  refine (first past).weaken ?_
  rintro result reached ⟨grown, said⟩
  cases result with
  | error error =>
      refine ⟨grown, ?_⟩
      intro value impossible
      cases impossible
  | ok value =>
      refine (second value reached).weaken ?_
      rintro result last ⟨grownAgain, saidNext⟩
      refine ⟨List.Subset.trans grown grownAgain, ?_⟩
      intro final isFinal evidence explains
      exact
        saidNext final isFinal evidence explains
          (said value rfl evidence (explains.earlier grownAgain))

/-- A read is answered as the tables answer it. -/
theorem evidence (query : EvidenceQuery) :
    Reads (readEvidence query) fun evidence result =>
      evidence.Answers query result := by
  intro past
  refine ⟨⟨query, rfl⟩, fun answer => ?_⟩
  apply Program.obeys_ofExcept.mpr
  refine ⟨List.subset_cons_self _ past, ?_⟩
  intro value isValue evidence explains
  subst isValue
  exact explains query value List.mem_cons_self

/-- A check says that it was passed. -/
theorem orRefuse
    {check : Except AdminEvidenceError α}
    {tells : Evidence → α → Prop}
    (said :
      ∀ value, check = .ok value → ∀ evidence, tells evidence value) :
    Reads (Sparkz.orRefuse check) tells := by
  cases isCheck : check with
  | ok value =>
      exact done (said value isCheck)
  | error error =>
      exact fail

end Reads

/-! ## The reads of a call -/

section Calls

variable {hash : TransactionHash} {table : EvidenceTable}
  {request : AdminCorrectionAnnotationRequest}

theorem readUser_reads (userId : Option String) :
    Reads (readUser userId) fun evidence user =>
      user = evidence.userOf userId := by
  unfold readUser
  cases isUser : orNull userId with
  | none =>
      apply Reads.done
      intro evidence
      rw [Evidence.userOf, isUser]
      rfl
  | some id =>
      refine (Reads.evidence .hasUsers).bind ?_
      intro available
      cases available with
      | false =>
          apply Reads.done
          rintro evidence ⟨order, isMissing⟩
          have noUsers : evidence.users = none :=
            Option.isNone_iff_eq_none.mp
              (Option.isSome_eq_false_iff.mp isMissing.symm)
          rw [Evidence.userOf, isUser, Option.bind_some,
            Evidence.userWithId, noUsers]
          rfl
      | true =>
          intro past
          refine (Reads.evidence (.user id) past).weaken ?_
          rintro result reached ⟨grown, said⟩
          refine ⟨grown, ?_⟩
          intro user isResult evidence explains _
          obtain ⟨order, isAnswer⟩ := said user isResult evidence explains
          rw [Evidence.userOf, isUser, isAnswer]
          rfl

theorem readReference_reads (row : EvidenceRecord) :
    Reads (readReference table row) fun evidence reference =>
      reference = evidence.reference table row := by
  refine (readUser_reads row.user_id).bind ?_
  intro user
  apply Reads.done
  intro evidence isUser
  rw [Evidence.reference, isUser]

/-- The target of a call is what its subject stands for. -/
theorem targetContext_reads :
    Reads (targetContext request) fun evidence target =>
      evidence.target request = some target := by
  refine (Reads.evidence (.hasTable _)).bind ?_
  intro available
  cases available with
  | false =>
      exact Reads.fail
  | true =>
      refine
        (Reads.evidence
          (.withId (tableForSubject request.subjectType)
            request.subjectId.text)).bind ?_
      intro found
      cases found with
      | none =>
          exact Reads.fail
      | some row =>
          intro past
          refine (readReference_reads row past).weaken ?_
          rintro result reached ⟨grown, said⟩
          refine ⟨grown, ?_⟩
          rintro target isResult evidence explains ⟨order, isFound⟩ _
          have isRow :
              evidence.withId (tableForSubject request.subjectType)
                  request.subjectId.text =
                some row :=
            isFound.symm
          rw [Evidence.target, isRow, said target isResult evidence explains]
          rfl

theorem readReferences_reads (rows : List EvidenceRecord) :
    Reads (readReferences table rows) fun evidence candidates =>
      candidates = rows.map (evidence.reference table) := by
  induction rows with
  | nil =>
      exact Reads.done fun _ => rfl
  | cons row rows inductionHypothesis =>
      refine (readReference_reads row).bind ?_
      intro candidate
      refine inductionHypothesis.bind ?_
      intro candidates
      apply Reads.done
      intro evidence areCandidates isCandidate
      rw [isCandidate, areCandidates, List.map_cons]

/-- The candidates of a table are all of its rows, if they are not too many. -/
theorem tableCandidates_reads :
    Reads (tableCandidates hash table) fun evidence candidates =>
      candidates.2 = false →
        candidates.1.Perm (evidence.retainedIn hash table) := by
  refine (Reads.evidence (.hasTable table)).bind ?_
  intro available
  cases available with
  | false =>
      apply Reads.done
      rintro evidence ⟨order, isMissing⟩ _
      have noRows : evidence.records table = none :=
        Option.isNone_iff_eq_none.mp
          (Option.isSome_eq_false_iff.mp isMissing.symm)
      have none : evidence.retainedIn hash table = [] := by
        simp [Evidence.retainedIn, Evidence.withHash, Evidence.rowsOf,
          noRows]
      rw [none]
  | true =>
      refine (Reads.evidence (.withHash table hash)).bind ?_
      intro rows
      refine (readReferences_reads _).bind ?_
      intro candidates
      apply Reads.done
      rintro evidence areCandidates ⟨order, areRows⟩ _ notTooMany
      have few : rows.length ≤ ADMIN_REFERENCE_CANDIDATE_LIMIT :=
        Nat.not_lt.mp (of_decide_eq_false notTooMany)
      have all : rows = arranged order (evidence.withHash table hash) := by
        have short :
            (arranged order (evidence.withHash table hash)).length ≤
              ADMIN_REFERENCE_CANDIDATE_LIMIT + 1 := by
          have taken := congrArg List.length areRows
          simp only [Evidence.answer, List.length_take] at taken
          omega
        exact areRows.trans (List.take_of_length_le short)
      show candidates.Perm _
      rw [areCandidates, List.take_of_length_le few, all]
      exact (arranged_perm order _).map _

/-- A reference was selected from all rows with its hash. -/
theorem transactionReference_reads :
    Reads (transactionReference hash) fun evidence reference =>
      ∃ candidates candidateOverflow,
        candidates.Perm (evidence.retained hash) ∧
          selectReference candidates candidateOverflow = .ok reference := by
  refine tableCandidates_reads.bind ?_
  intro operations
  refine tableCandidates_reads.bind ?_
  intro awards
  refine tableCandidates_reads.bind ?_
  intro spends
  apply Reads.orRefuse
  intro reference selects evidence areSpends areAwards areOperations
  obtain ⟨notTooMany, _⟩ := selectReference_covers selects
  simp only [Bool.or_eq_false_iff] at notTooMany
  obtain ⟨⟨fewOperations, fewAwards⟩, fewSpends⟩ := notTooMany
  refine ⟨_, _, ?_, selects⟩
  exact
    ((areOperations fewOperations).append (areAwards fewAwards)).append
      (areSpends fewSpends)

/-- A reference that a call inserts is supported by what it has read. -/
theorem reference_reads :
    Reads (targetContext request >>= resolveReference request)
      fun evidence _ =>
        ∀ hash,
          request.reference = .transaction hash →
            evidence.Supports request hash := by
  refine targetContext_reads.bind ?_
  intro target
  unfold resolveReference
  cases isReference : request.reference with
  | case text =>
      apply Reads.done
      intro evidence _ hash impossible
      cases impossible
  | transaction hash =>
      refine transactionReference_reads.bind ?_
      intro reference
      refine
        Reads.bind
          (Reads.orRefuse fun _ accepted _ =>
            (show referenceMatchesTarget target reference = .ok () from
              accepted)) ?_
      intro accepted
      apply Reads.done
      rintro evidence isAccepted ⟨candidates, overflow, sameRows, selects⟩
        isTarget other isSame
      cases isSame
      exact evidence.supports_of_accepted isTarget sameRows selects isAccepted

end Calls

end Sparkz
