import Mathlib.Data.List.Perm.Subperm
import Mathlib.Data.List.Nodup
import Sparkz.Refusals
import Sparkz.RpcResponses

namespace Sparkz

open Refusals

/-!
# Validated responses

A validated response answers each request once and contains nothing else: as
many entries as requests, and every request finds an entry of its own.
-/

/-- An entry with exactly one result or numbered error. -/
structure RpcEntry.IsWellFormed (entry : RpcEntry) : Prop where
  jsonrpc : entry.jsonrpc = some "2.0"
  oneOutcome : entry.result.isSome ≠ entry.error.isSome
  error : entry.error ≠ some .invalid

/-- One well-formed entry for each request id, and nothing else. -/
structure RpcPayload.IsAnsweredBy
    (payload : RpcPayload)
    (response : List RpcEntry) :
    Prop where
  distinct : (payload.requests.map (·.id)).Nodup
  ids :
    (response.map (·.id)).Perm
      (payload.requests.map fun request => some request.id)
  wellFormed : ∀ entry ∈ response, entry.IsWellFormed

/-- Every request of an accepted list has a well-formed entry of its own. -/
theorem checkEntries_eq_ok
    {response : List RpcEntry}
    {requests : List JsonRpcPayload}
    {seenIds : List Int}
    (accepted : checkEntries response requests seenIds = .ok ()) :
    (requests.map (·.id)).Nodup ∧
      (∀ request ∈ requests, request.id ∉ seenIds) ∧
      ∀ request ∈ requests,
        ∃ entry,
          responseForId response request.id = some entry ∧
            entry.IsWellFormed := by
  induction requests generalizing seenIds with
  | nil =>
      simp
  | cons request rest inductionHypothesis =>
      unfold checkEntries at accepted
      cases found : responseForId response request.id with
      | none =>
          simp [found] at accepted
      | some entry =>
          simp only [found, ite_error_eq_ok, ne_eq, not_not] at accepted
          obtain ⟨jsonrpc, fresh, oneOutcome, notInvalid, accepted⟩ :=
            accepted
          obtain ⟨restDistinct, restFresh, restFound⟩ :=
            inductionHypothesis accepted
          have wellFormed : entry.IsWellFormed :=
            ⟨jsonrpc, oneOutcome, notInvalid⟩
          refine ⟨?_, ?_, ?_⟩
          · rw [List.map_cons, List.nodup_cons]
            refine ⟨?_, restDistinct⟩
            intro again
            obtain ⟨other, member, sameId⟩ := List.mem_map.mp again
            exact restFresh other member (by simp [sameId])
          · intro other member
            rcases List.mem_cons.mp member with rfl | member
            · simpa using fresh
            · intro seen
              exact restFresh other member (List.mem_cons_of_mem _ seen)
          · intro other member
            rcases List.mem_cons.mp member with rfl | member
            · exact ⟨entry, found, wellFormed⟩
            · exact restFound other member

theorem responseForId_eq_some
    {response : List RpcEntry}
    {id : Int}
    {entry : RpcEntry}
    (found : responseForId response id = some entry) :
    entry ∈ response ∧ entry.id = some id := by
  have matching := List.find?_some found
  exact ⟨List.mem_of_find?_eq_some found, by simpa using matching⟩

/-- As many entries as requests, each with its own, are all the entries. -/
theorem isAnsweredBy_of_checkEntries
    {payload : RpcPayload}
    {response : List RpcEntry}
    (sameLength : response.length = payload.requests.length)
    (accepted : checkEntries response payload.requests [] = .ok ()) :
    payload.IsAnsweredBy response := by
  obtain ⟨distinct, _, found⟩ := checkEntries_eq_ok accepted
  have requestedDistinct :
      (payload.requests.map fun request => some request.id).Nodup := by
    have same :
        (payload.requests.map fun request => some request.id) =
          (payload.requests.map (·.id)).map some := by
      simp
    rw [same]
    exact distinct.map fun _ _ same => Option.some.inj same
  have contained :
      (payload.requests.map fun request => some request.id) ⊆
        response.map (·.id) := by
    intro id member
    obtain ⟨request, isRequest, rfl⟩ := List.mem_map.mp member
    obtain ⟨entry, isEntry, _⟩ := found request isRequest
    obtain ⟨entryMember, sameId⟩ := responseForId_eq_some isEntry
    exact List.mem_map.mpr ⟨entry, entryMember, sameId⟩
  have permuted :
      (payload.requests.map fun request => some request.id).Perm
        (response.map (·.id)) := by
    apply (List.subperm_of_subset requestedDistinct
      contained).perm_of_length_le
    simp [sameLength]
  have responseDistinct : (response.map (·.id)).Nodup :=
    permuted.nodup_iff.mp requestedDistinct
  refine ⟨distinct, permuted.symm, ?_⟩
  intro entry member
  have requested :
      entry.id ∈
        payload.requests.map fun request => some request.id :=
    permuted.mem_iff.mpr (List.mem_map_of_mem member)
  obtain ⟨request, isRequest, sameId⟩ := List.mem_map.mp requested
  obtain ⟨other, isOther, wellFormed⟩ := found request isRequest
  obtain ⟨otherMember, otherId⟩ := responseForId_eq_some isOther
  have same : entry = other :=
    List.inj_on_of_nodup_map responseDistinct member otherMember
      (by rw [otherId, sameId])
  rw [same]
  exact wellFormed

/-- A response that passes validation answers its payload. -/
theorem validateRpcResponse_eq_ok
    {body : RpcBody}
    {payload : RpcPayload}
    {response : List RpcEntry}
    (accepted : validateRpcResponse body payload = .ok response) :
    payload.IsAnsweredBy response := by
  have validated :
      ∀ entries,
        validateRpcResponse.validate payload entries = .ok response →
        payload.IsAnsweredBy response := by
    intro entries accepted
    unfold validateRpcResponse.validate at accepted
    simp only [ite_error_eq_ok, ne_eq, not_or, not_not] at accepted
    obtain ⟨⟨sameLength, _⟩, accepted⟩ := accepted
    cases checked : checkEntries entries payload.requests [] with
    | error error =>
        simp [checked, Except.map] at accepted
    | ok passed =>
        simp only [checked, Except.map, Except.ok.injEq] at accepted
        subst accepted
        exact isAnsweredBy_of_checkEntries sameLength checked
  cases body with
  | invalidJson =>
      cases accepted
  | single entry =>
      exact validated [entry] accepted
  | batch entries =>
      exact validated entries accepted

end Sparkz
