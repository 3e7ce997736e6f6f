import MessageForms.Client
import MessageForms.Proofs.Session.Slots

/-!
# Accounts of contexts

A client that is to pass every context to its destruction once, and not to use it afterwards,
keeps an account of handles: a creation puts a handle on it, a destruction takes one off for
good, and no request is made with a handle that is not on account. One request keeps the account
in order, whoever makes it.
-/

namespace MessageForms

namespace Request

/-- The handle that a request is made with. -/
def handle? : Request → Option ContextId
  | .destroy id? | .ask id? _ => id?
  | _ => none

/-- The handle of the context that a request destroys. -/
def destroyed? : Request → Option ContextId
  | .destroy id? => id?
  | _ => none

/-- What a request destroys is what it is made with. -/
theorem handle?_of_destroyed? {request : Request} {id : ContextId}
    (destroys : request.destroyed? = some id) : request.handle? = some id := by
  cases request with
  | destroy id? => exact destroys
  | _ => cases destroys

end Request

/-- The handle under which an exchange created a context. -/
def Exchange.created? (exchange : Exchange) : Option ContextId :=
  match exchange.response with
  | .created id? => id?
  | _ => none

namespace Client

/-- Whether a client was given a context under a handle. -/
def Made (client : Client) (id : ContextId) : Prop :=
  ∃ exchange ∈ client.exchanges, exchange.created? = some id

instance (client : Client) (id : ContextId) : Decidable (client.Made id) :=
  inferInstanceAs (Decidable (∃ exchange ∈ client.exchanges, exchange.created? = some id))

/-- How often a client had the context of a handle destroyed. -/
def destructions (client : Client) (id : ContextId) : Nat :=
  client.exchanges.countP (·.request.destroyed? = some id)

section Requests

variable (client : Client) (request : Request) (id : ContextId)

/-- The exchange that a request leads to. -/
def exchange : Exchange :=
  let result := client.session.perform thread request
  ⟨request, result.value.2, result.events, client.session.lines result.events⟩

/-- A request is recorded last. -/
theorem exchanges_request :
    (client.request request).1.exchanges = client.exchanges ++ [client.exchange request] := rfl

/-- A context is created by a successful creation alone, and gets the next handle. -/
theorem created?_exchange : (client.exchange request).created? = some id ↔
    request = .create true ∧ id = client.session.nextId := by
  cases request with
  | create available =>
    cases available with
    | true =>
      have created : (client.exchange (.create true)).created? = some client.session.nextId := rfl
      rw [created, Option.some.injEq]
      exact ⟨fun same => ⟨rfl, same.symm⟩, fun isNext => isNext.2.symm⟩
    | false => exact iff_of_false nofun nofun
  | isVariant value? => cases value? <;> exact iff_of_false nofun nofun
  | log level message? => cases message? <;> exact iff_of_false nofun nofun
  | _ => exact iff_of_false nofun nofun

/-- A request adds the context that it creates. -/
theorem made_request : (client.request request).1.Made id ↔
    client.Made id ∨ (client.exchange request).created? = some id := by
  simp only [Made, exchanges_request, List.mem_append, List.mem_singleton, or_and_right, exists_or,
    exists_eq_left]

/-- A request counts for the context that it destroys. -/
theorem destructions_request : (client.request request).1.destructions id =
    client.destructions id + if request.destroyed? = some id then 1 else 0 := by
  simp only [destructions, exchanges_request, List.countP_append, List.countP_singleton,
    decide_eq_true_eq]
  rfl

/-- After a request there is a context under the handles that had one, but for the one that is
destroyed, and under the one that is created. -/
theorem isSome_context?_request
    (given : (client.session.context? (some id)).isSome → id < client.session.nextId) :
    ((client.request request).1.session.context? (some id)).isSome ↔
      (client.exchange request).created? = some id ∨
        (client.session.context? (some id)).isSome ∧ request.destroyed? ≠ some id := by
  have after : (client.request request).1.session.context? (some id) = _ :=
    congrArg Slot.context? (client.session.slot_afterCall thread id (.request request))
  rw [created?_exchange, after]
  cases request with
  | create available =>
    by_cases new : id = client.session.nextId
    · have unused : ¬ (client.session.context? (some id)).isSome := fun live =>
        Nat.ne_of_lt (given live) new
      cases available <;> simp [new ▸ unused, new, Slot.create, Slot.destroy]
    · simp [new, Session.slot, Request.destroyed?]
  | destroy id? =>
    cases id? with
    | none => simp [Session.slot, Request.destroyed?]
    | some called =>
      by_cases same : id = called
      · simp [same, Slot.destroy, Request.destroyed?]
      · simp [same, Ne.symm same, Session.slot, Request.destroyed?]
  | ask id? query =>
    cases id? with
    | none => simp [Session.slot, Request.destroyed?]
    | some called =>
      by_cases same : id = called
      · simp [same, Slot.isSome_context?_ask, Session.slot, Request.destroyed?]
      · simp [same, Session.slot, Request.destroyed?]
  | _ => simp [Session.slot, Request.destroyed?]

end Requests

/-- The handles on account are those that were created and not destroyed. -/
structure Accounts (client : Client) (owned : List ContextId) : Prop where
  /-- No handle is on account twice. -/
  distinct : owned.Nodup
  /-- What is on account was created. -/
  made {id : ContextId} (member : id ∈ owned) : client.Made id
  /-- The session has the contexts of the handles on account, and no others. -/
  live (id : ContextId) : id ∈ owned ↔ (client.session.context? (some id)).isSome
  /-- The context of a handle that is no longer on account was destroyed once. -/
  destroyed {id : ContextId} (made : client.Made id) :
    client.destructions id = if id ∈ owned then 0 else 1
  /-- A handle that a context was created under is not to come again. -/
  given {id : ContextId} (made : client.Made id) : id < client.session.nextId
  /-- Requests are made with handles that a context was created under. -/
  used (exchange : Exchange) (member : exchange ∈ client.exchanges) {id : ContextId}
    (uses : exchange.request.handle? = some id) : client.Made id
  /-- No request is made with a handle whose context was destroyed before. -/
  unused : client.exchanges.Pairwise fun earlier later => ∀ id,
    earlier.request.destroyed? = some id → later.request.handle? ≠ some id

namespace Accounts

variable {client : Client} {owned rest : List ContextId}

/-- It does not matter in which order handles are on account. -/
theorem perm (accounts : client.Accounts owned) (permuted : owned.Perm rest) :
    client.Accounts rest where
  distinct := permuted.nodup_iff.mp accounts.distinct
  made member := accounts.made (permuted.mem_iff.mpr member)
  live id := permuted.mem_iff.symm.trans (accounts.live id)
  destroyed made := by
    rw [accounts.destroyed made]
    simp only [permuted.mem_iff]
  given := accounts.given
  used := accounts.used
  unused := accounts.unused

/-- It does not matter either which holders own them. -/
theorem withHolders (accounts : client.Accounts owned)
    (holders : List (Text × Option ContextId)) :
    Accounts { client with holders } owned :=
  ⟨accounts.distinct, accounts.made, accounts.live, accounts.destroyed, accounts.given,
    accounts.used, accounts.unused⟩

/-- What was not created was not destroyed. -/
theorem destructions_eq_zero (accounts : client.Accounts owned) {id : ContextId}
    (unmade : ¬ client.Made id) : client.destructions id = 0 := by
  refine List.countP_eq_zero.mpr fun exchange member destroys => unmade ?_
  have uses := Request.handle?_of_destroyed? (of_decide_eq_true destroys)
  exact accounts.used exchange member uses

/-- What is on account was not destroyed before. -/
theorem not_destroyed (accounts : client.Accounts owned) {id : ContextId} (member : id ∈ owned)
    {exchange : Exchange} (earlier : exchange ∈ client.exchanges) :
    exchange.request.destroyed? ≠ some id := by
  have none := (accounts.destroyed (accounts.made member)).trans (if_pos member)
  exact fun destroys => List.countP_eq_zero.mp none exchange earlier (decide_eq_true destroys)

/-- A request with a handle on account changes the account by what it creates and destroys. -/
theorem request (accounts : client.Accounts owned) {request : Request}
    (uses : ∀ id, request.handle? = some id → id ∈ owned) (distinct : rest.Nodup)
    (changes : ∀ id, id ∈ rest ↔
      (client.exchange request).created? = some id ∨ id ∈ owned ∧ request.destroyed? ≠ some id) :
    (client.request request).1.Accounts rest := by
  have kept : ∀ {id}, client.Made id → (client.request request).1.Made id := fun made =>
    (client.made_request request _).mpr (.inl made)
  have toCome : ∀ {id}, (client.exchange request).created? = some id → ¬ client.Made id := by
    intro id created made
    exact Nat.ne_of_lt (accounts.given made) ((client.created?_exchange request id).mp created).2
  refine ⟨distinct, ?_, ?_, ?_, ?_, ?_, ?_⟩
  · intro id member
    obtain created | ⟨member, -⟩ := (changes id).mp member
    · exact (client.made_request request id).mpr (.inr created)
    · exact kept (accounts.made member)
  · intro id
    rw [changes, accounts.live]
    refine (client.isSome_context?_request request id fun live => ?_).symm
    exact accounts.given (accounts.made ((accounts.live id).mpr live))
  · intro id made
    rw [destructions_request]
    rcases (client.made_request request id).mp made with before | created
    · rw [accounts.destroyed before]
      by_cases destroys : request.destroyed? = some id
      · have member := uses id (Request.handle?_of_destroyed? destroys)
        have off : id ∉ rest := fun stays =>
          ((changes id).mp stays).elim (toCome · before) fun other => other.2 destroys
        rw [if_pos member, if_pos destroys, if_neg off]
      · have stays : id ∈ rest ↔ id ∈ owned := by simp [changes, destroys, mt toCome, before]
        simp only [stays, if_neg destroys, Nat.add_zero]
    · have spared : request.destroyed? ≠ some id := fun destroys =>
        toCome created (accounts.made (uses id (Request.handle?_of_destroyed? destroys)))
      rw [accounts.destructions_eq_zero (toCome created), if_neg spared,
        if_pos ((changes id).mpr (.inl created))]
  · intro id made
    rcases (client.made_request request id).mp made with before | created
    · exact Nat.lt_of_lt_of_le (accounts.given before)
        (client.session.nextId_le_afterCall thread (.request request))
    · obtain ⟨rfl, rfl⟩ := (client.created?_exchange request id).mp created
      exact Nat.lt_succ_self _
  · intro exchange member id passed
    rcases List.mem_append.mp member with earlier | last
    · exact kept (accounts.used exchange earlier passed)
    · cases List.mem_singleton.mp last
      exact kept (accounts.made (uses id passed))
  · refine List.pairwise_append.mpr ⟨accounts.unused, List.pairwise_singleton _ _, ?_⟩
    intro earlier member later last id destroys passed
    cases List.mem_singleton.mp last
    exact accounts.not_destroyed (uses id passed) member destroys

/-- A request that neither creates nor destroys a context changes nothing on account. -/
theorem quiet (accounts : client.Accounts owned) {request : Request}
    (uses : ∀ id, request.handle? = some id → id ∈ owned)
    (uncreated : ∀ available, request ≠ .create available)
    (spared : request.destroyed? = none) : (client.request request).1.Accounts owned := by
  refine accounts.request uses accounts.distinct fun id => ?_
  have noneCreated : (client.exchange request).created? ≠ some id := fun created =>
    uncreated true ((client.created?_exchange request id).mp created).1
  simp [noneCreated, spared]

/-- A creation puts the handle that it gives out on account, if it succeeds. -/
theorem create (accounts : client.Accounts owned) (available : Bool) :
    (client.request (.create available)).1.Accounts
      ((client.exchange (.create available)).created?.toList ++ owned) := by
  refine accounts.request nofun ?_ fun id => ?_
  · cases available with
    | false => exact accounts.distinct
    | true =>
      refine List.nodup_cons.mpr ⟨fun member => ?_, accounts.distinct⟩
      exact Nat.lt_irrefl _ (accounts.given (accounts.made member))
  · simp [Request.destroyed?]

/-- A destruction takes its handle off. -/
theorem discard {id? : Option ContextId} (accounts : client.Accounts (id?.toList ++ owned)) :
    (client.discard id?).Accounts owned := by
  cases id? with
  | none => exact accounts.quiet nofun nofun rfl
  | some id =>
    obtain ⟨off, distinct⟩ := List.nodup_cons.mp accounts.distinct
    refine accounts.request (fun other uses => ?_) distinct fun other => ?_
    · cases uses
      exact List.mem_cons_self
    · have uncreated : (client.exchange (.destroy (some id))).created? ≠ some other := nofun
      have others : other ∈ owned → id ≠ other := fun member same => off (same ▸ member)
      simp only [uncreated, false_or, Option.toList_some, List.singleton_append, List.mem_cons,
        Request.destroyed?, ne_eq, Option.some.injEq]
      grind

end Accounts

end Client

end MessageForms
