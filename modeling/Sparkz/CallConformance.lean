import Sparkz.System

namespace Sparkz

open Interleaving

/-!
# Following one call

The rules that follow a call through its operations, and what a call knows
inside a transaction.  A lock that was taken and not given up since is held, and
a read that was made under a held lock is a read under that lock.
-/

/-- The operations a call has performed, newest first. -/
abbrev Past := List (Event sparkz)

section Operations

variable {permits : Protocol sparkz} {past : Past}

/-- A lock is taken, or the call throws. -/
@[simp] theorem obeys_lock
    {key : LockKey}
    {post : Except Failure Unit → Past → Prop} :
    (lock key).Obeys permits past post ↔
      permits past (.lock key) ∧
        post (.ok ()) (⟨.lock key, .ok ()⟩ :: past) ∧
        ∀ error : StoreError,
          post (.error error.failure)
            (⟨.lock key, .error error⟩ :: past) := by
  refine and_congr Iff.rfl ?_
  constructor
  · intro holds
    exact ⟨holds (.ok ()), fun error => holds (.error error)⟩
  · rintro ⟨taken, refused⟩ (error | _)
    · exact refused error
    · exact taken

/-- A read returns committed rows, or the call throws. -/
@[simp] theorem obeys_read
    {query : Query}
    {post : Except Failure query.Result → Past → Prop} :
    Program.Obeys (α := no_index (query.Result)) permits (read query) past
        post ↔
      permits past (.read query) ∧
        (∀ result,
          post (.ok result) (⟨.read query, .ok result⟩ :: past)) ∧
        ∀ error : StoreError,
          post (.error error.failure)
            (⟨.read query, .error error⟩ :: past) := by
  refine and_congr Iff.rfl ?_
  constructor
  · intro holds
    exact
      ⟨fun result => holds (.ok result), fun error =>
        holds (.error error)⟩
  · rintro ⟨answered, refused⟩ (error | result)
    · exact refused error
    · exact answered result

/-- A change is committed, or the call throws. -/
@[simp] theorem obeys_write
    {change : Change}
    {post : Except Failure change.Result → Past → Prop} :
    Program.Obeys (α := no_index (change.Result)) permits (write change) past
        post ↔
      permits past (.write change) ∧
        (∀ result,
          post (.ok result) (⟨.write change, .ok result⟩ :: past)) ∧
        ∀ error : StoreError,
          post (.error error.failure)
            (⟨.write change, .error error⟩ :: past) := by
  refine and_congr Iff.rfl ?_
  constructor
  · intro holds
    exact
      ⟨fun result => holds (.ok result), fun error =>
        holds (.error error)⟩
  · rintro ⟨answered, refused⟩ (error | result)
    · exact refused error
    · exact answered result

/-- The provider answers, or the call throws. -/
@[simp] theorem obeys_chain
    {request : ChainRequest}
    {post : Except Failure request.Reply → Past → Prop} :
    Program.Obeys (α := no_index (request.Reply)) permits (chain request) past
        post ↔
      permits past (.chain request) ∧
        (∀ reply,
          post (.ok reply) (⟨.chain request, .ok reply⟩ :: past)) ∧
        ∀ error : ProviderError,
          post (.error error.failure)
            (⟨.chain request, .error error⟩ :: past) := by
  refine and_congr Iff.rfl ?_
  constructor
  · intro holds
    exact
      ⟨fun reply => holds (.ok reply), fun error =>
        holds (.error error)⟩
  · rintro ⟨answered, refused⟩ (error | reply)
    · exact refused error
    · exact answered reply

@[simp] theorem obeys_service
    {request : ServiceRequest}
    {post : Except Failure request.Reply → Past → Prop} :
    Program.Obeys (α := no_index (request.Reply)) permits (service request) past
        post ↔
      permits past (.service request) ∧
        ∀ reply,
          post (.ok reply) (⟨.service request, reply⟩ :: past) :=
  Iff.rfl

@[simp] theorem obeys_note
    {noted : Note}
    {post : Except Failure Unit → Past → Prop} :
    (note noted).Obeys permits past post ↔
      permits past (.note noted) ∧
        post (.ok ()) (⟨.note noted, ()⟩ :: past) :=
  and_congr Iff.rfl ⟨fun holds => holds (), fun holds _ => holds⟩

@[simp] theorem obeys_release
    {post : Except Failure Unit → Past → Prop} :
    release.Obeys permits past post ↔
      permits past .release ∧
        post (.ok ()) (⟨.release, ()⟩ :: past) :=
  and_congr Iff.rfl ⟨fun holds => holds (), fun holds _ => holds⟩

@[simp] theorem obeys_throwFailure {α : Type}
    {failure : Failure}
    {post : Except Failure α → Past → Prop} :
    (throwFailure failure).Obeys permits past post ↔
      post (.error failure) past :=
  Iff.rfl

@[simp] theorem obeys_orThrow {α : Type}
    {answer : Except Failure α}
    {post : Except Failure α → Past → Prop} :
    (orThrow answer).Obeys permits past post ↔
      post answer past :=
  Program.obeys_ofExcept

/-- A transaction gives up its locks however its body ends. -/
@[simp] theorem obeys_transaction {α : Type}
    {body : Call α}
    {post : Except Failure α → Past → Prop} :
    (transaction body).Obeys permits past post ↔
      body.Obeys permits past
        fun result reached =>
          permits reached .release ∧
            post result (⟨.release, ()⟩ :: reached) := by
  unfold transaction
  rw [Program.obeys_bind, Program.obeys_attempt]
  constructor <;> intro obeys <;> refine obeys.weaken ?_
  · rintro (failure | value) reached continues
    · simpa [Program.obeys_bind] using continues
    · simpa [Program.obeys_bind] using continues
  · rintro (failure | value) reached continues
    · simpa [Program.obeys_bind] using continues
    · simpa [Program.obeys_bind] using continues

end Operations

/-! ## Inside a transaction -/

/-- Whether an operation gives up every lock of its call. -/
def Op.endsTransaction : Op → Bool
  | .release | .write _ => true
  | _ => false

/-- An event of the transaction that is still open. -/
def InTransaction (event : Event sparkz) : Past → Prop
  | [] => False
  | newest :: past =>
      Op.endsTransaction newest.op = false ∧
        (newest = event ∨ InTransaction event past)

/-- The call has taken a lock and not given it up. -/
abbrev Holds (key : LockKey) : Past → Prop :=
  InTransaction ⟨.lock key, .ok ()⟩

/-- An event that has happened while a lock has been held ever since. -/
def Under (key : LockKey) (event : Event sparkz) : Past → Prop
  | [] => False
  | newest :: past =>
      Op.endsTransaction newest.op = false ∧
        (newest = event ∧ Holds key past ∨ Under key event past)

/-- The call has read this result while it has been holding a lock. -/
abbrev ReadUnder
    (key : LockKey)
    (query : Query)
    (result : query.Result) :
    Past → Prop :=
  Under key ⟨.read query, .ok result⟩

/-- The call has left this note while it has been holding a lock. -/
abbrev NotedUnder (key : LockKey) (noted : Note) : Past → Prop :=
  Under key ⟨.note noted, ()⟩

section Windows

variable {key : LockKey} {event newest : Event sparkz}
  {past reached : Past}

@[simp] theorem inTransaction_cons :
    InTransaction event (newest :: past) ↔
      Op.endsTransaction newest.op = false ∧
        (newest = event ∨ InTransaction event past) :=
  Iff.rfl

@[simp] theorem under_cons :
    Under key event (newest :: past) ↔
      Op.endsTransaction newest.op = false ∧
        (newest = event ∧ Holds key past ∨ Under key event past) :=
  Iff.rfl

theorem Under.holds (under : Under key event past) :
    Holds key past := by
  induction past with
  | nil =>
      exact under
  | cons newest past inductionHypothesis =>
      refine ⟨under.1, Or.inr ?_⟩
      rcases under.2 with ⟨_, holds⟩ | earlier
      · exact holds
      · exact inductionHypothesis earlier

/-- An event under a lock is among the events of the call. -/
theorem Under.mem (under : Under key event past) : event ∈ past := by
  induction past with
  | nil =>
      exact under.elim
  | cons newest past inductionHypothesis =>
      rcases under.2 with ⟨rfl, _⟩ | earlier
      · exact List.mem_cons_self
      · exact List.mem_cons_of_mem _ (inductionHypothesis earlier)

/--
What a transaction issues before its end, besides its writes, when it asks the
chain only some requests.
-/
def Op.Inside (asks : ChainRequest → Prop) : Op → Prop
  | .lock _ | .read _ | .service _ => True
  | .note (.balance _) | .note (.pendingNonce _) => True
  | .chain request => asks request
  | _ => False

/-- The protocol of a part that stays inside its transaction. -/
def insideTransaction (asks : ChainRequest → Prop) : Protocol sparkz :=
  fun _ op => Op.Inside asks op

variable {asks : ChainRequest → Prop}

/-- An operation inside a transaction may follow. -/
theorem insideTransaction_cons
    {op : Op} {answer : op.Answer}
    (extended : ExtendsBy (insideTransaction asks) past reached)
    (inside : op.Inside asks) :
    ExtendsBy (insideTransaction asks) past (⟨op, answer⟩ :: reached) :=
  extended.perform inside answer

/-- The same, for an operation and an answer that are named. -/
theorem insideTransaction_perform
    (op : Op)
    (answer : op.Answer)
    (extended : ExtendsBy (insideTransaction asks) past reached)
    (inside : op.Inside asks) :
    ExtendsBy (insideTransaction asks) past (⟨op, answer⟩ :: reached) :=
  insideTransaction_cons extended inside

theorem Op.Inside.continues
    {op : Op}
    (inside : op.Inside asks) :
    op.endsTransaction = false := by
  cases op <;> first | rfl | cases inside

/-- An open transaction goes on. -/
theorem InTransaction.extend
    (inTransaction : InTransaction event past)
    (extended : ExtendsBy (insideTransaction asks) past reached) :
    InTransaction event reached := by
  induction extended with
  | none =>
      exact inTransaction
  | perform _ inside answer inductionHypothesis =>
      exact ⟨inside.continues, Or.inr inductionHypothesis⟩

/-- What happened under a lock stays so while the transaction goes on. -/
theorem Under.extend
    (under : Under key event past)
    (extended : ExtendsBy (insideTransaction asks) past reached) :
    Under key event reached := by
  induction extended with
  | none =>
      exact under
  | perform _ inside answer inductionHypothesis =>
      exact ⟨inside.continues, Or.inr inductionHypothesis⟩

end Windows

section Inside

variable {asks : ChainRequest → Prop} {past : Past}

@[simp] theorem insideTransaction_lock {key : LockKey} :
    insideTransaction asks past (.lock key) :=
  trivial

@[simp] theorem insideTransaction_read {query : Query} :
    insideTransaction asks past (.read query) :=
  trivial

@[simp] theorem insideTransaction_service {request : ServiceRequest} :
    insideTransaction asks past (.service request) :=
  trivial

@[simp] theorem insideTransaction_balance {sampled : JsNumber} :
    insideTransaction asks past (.note (.balance sampled)) :=
  trivial

end Inside

/-! ## The protocol of a store function -/

/-- Questions to services, and some questions to the chain. -/
def outsideOnly (asks : ChainRequest → Prop) : Protocol sparkz
  | _, .service _ => True
  | _, .chain request => asks request
  | _, _ => False

/-- A part of a call that only asks services and the chain. -/
def AsksOutside {α : Type}
    (asks : ChainRequest → Prop)
    (body : Call α) :
    Prop :=
  ∀ past, body.Obeys (outsideOnly asks) past fun _ _ => True

/-- A part that only asks outside leaves a transaction open. -/
theorem AsksOutside.inside {α : Type}
    {asks : ChainRequest → Prop}
    {body : Call α}
    (outside : AsksOutside asks body)
    (past : Past) :
    body.Obeys (insideTransaction asks) past fun _ reached =>
      ExtendsBy (insideTransaction asks) past reached := by
  have isInside :
      ∀ past op, outsideOnly asks past op → Op.Inside asks op := by
    intro past op permitted
    cases op <;> first | exact permitted | trivial
  refine
    ((outside past).embed fun reached op _ permitted =>
      isInside reached op permitted).weaken fun _ _ established => ?_
  exact established.2.weaken isInside

/-- The protocol of a store function with the given writes. -/
def writesOnly
    (asks : ChainRequest → Prop)
    (writes : Past → Change → Prop) :
    Protocol sparkz
  | past, .write change => writes past change
  | _, .release => True
  | _, op => Op.Inside asks op

section WritesOnly

variable {asks : ChainRequest → Prop}
  {writes : Past → Change → Prop} {past : Past}

@[simp] theorem writesOnly_write {change : Change} :
    writesOnly asks writes past (.write change) ↔ writes past change :=
  Iff.rfl

@[simp] theorem writesOnly_release :
    writesOnly asks writes past .release :=
  trivial

theorem writesOnly_inside
    (past : Past)
    {op : Op}
    (inside : op.Inside asks) :
    writesOnly asks writes past op := by
  cases op with
  | write change =>
      cases inside
  | release =>
      trivial
  | _ =>
      exact inside

@[simp] theorem writesOnly_lock {key : LockKey} :
    writesOnly asks writes past (.lock key) :=
  trivial

@[simp] theorem writesOnly_read {query : Query} :
    writesOnly asks writes past (.read query) :=
  trivial

/-- A part that stays inside its transaction conforms in any of them. -/
theorem obeys_writesOnly_of_inside {α : Type}
    {body : Call α}
    {post : Except Failure α → Past → Prop}
    (inside : body.Obeys (insideTransaction asks) past post) :
    body.Obeys (writesOnly asks writes) past fun result reached =>
      post result reached ∧
        ExtendsBy (insideTransaction asks) past reached :=
  inside.embed fun reached _ _ isInside =>
    writesOnly_inside reached isInside

end WritesOnly

end Sparkz
