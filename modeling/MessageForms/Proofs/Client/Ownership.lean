import MessageForms.Client.Step
import MessageForms.Proofs.Client
import MessageForms.Proofs.Client.Account
import MessageForms.Proofs.Entries

/-!
# Who owns a context

Every context that a client is given belongs to one holder until it is destroyed. A step takes a
handle from one holder and gives it to another one, or has it destroyed on the way. So what
carries this through a run is that the holders own the handles on account, but for the one that
is moving. A holder that nothing was left to gets no further than to be told so.
-/

namespace MessageForms

namespace Client

/-- The handles that the holders own. -/
def handles (client : Client) : List ContextId := client.holders.filterMap Prod.snd

section Holders

/-- The first holder adds what it owns. -/
theorem filterMap_snd_cons (name : Text) (owned : Option ContextId)
    (holders : List (Text × Option ContextId)) :
    ((name, owned) :: holders).filterMap Prod.snd =
      owned.toList ++ holders.filterMap Prod.snd := by
  cases owned <;> rfl

/-- Nothing is replaced under a name that no holder has. -/
theorem map_replace_of_absent {holder : Text} {holders : List (Text × Option ContextId)}
    (absent : holder ∉ holders.map Prod.fst) (id? : Option ContextId) :
    (holders.map fun entry => if entry.1 = holder then (holder, id?) else entry) = holders := by
  refine (List.map_congr_left fun entry member => if_neg ?_).trans (List.map_id' holders)
  exact fun same => absent (same ▸ List.mem_map_of_mem member)

variable (client : Client) (holder other : Text) (id? : Option ContextId)

/-- Giving a holder something to own changes what this holder owns, if there is one with the
name. -/
theorem held_setHeld : (client.setHeld holder id?).held other =
    if other = holder then (if client.hasHolder holder then id? else none)
    else client.held other := by
  rw [held, setHeld, lookup_map_replace, hasHolder, held]
  split
  next => cases client.holders.lookup holder <;> rfl
  next => rfl

/-- The holders are those whose names are listed. -/
theorem hasHolder_iff : client.hasHolder holder ↔ holder ∈ client.holders.map Prod.fst := by
  rw [hasHolder, List.lookup_isSome_iff, List.mem_map]
  simp only [beq_iff_eq, @eq_comm _ holder]

/-- Nothing is owned under a name that no holder has. -/
theorem held_of_absent (absent : ¬ client.hasHolder holder) : client.held holder = none := by
  rw [held, Option.not_isSome_iff_eq_none.mp absent, Option.join_none]

/-- Giving a holder something makes no holders. -/
theorem hasHolder_setHeld :
    (client.setHeld holder id?).hasHolder other = client.hasHolder other := by
  rw [hasHolder, setHeld, lookup_map_replace, hasHolder]
  split
  next same => rw [same, Option.isSome_map]
  next => rfl

/-- A new holder owns what it was given, and one that has the name already stays as it is. -/
theorem held_addHolder : (client.addHolder holder id?).held other =
    if other = holder ∧ client.hasHolder holder = false then id? else client.held other := by
  rw [addHolder]
  split
  next taken => simp only [taken, Bool.true_eq_false, and_false, if_false]; rfl
  next untaken =>
    have absent : client.holders.lookup holder = none := Option.not_isSome_iff_eq_none.mp untaken
    simp only [held, List.lookup_append, lookup_cons_eq_ite, List.lookup_nil, hasHolder, absent]
    by_cases same : other = holder
    · simp [same, absent]
    · simp [same]

/-- A holder that ends is no longer there. -/
theorem holders_destruct :
    (client.destruct holder).holders = client.holders.filter (·.1 != holder) := by
  have kept : (if client.hasHolder holder then client.discard (client.held holder)
      else client).holders = client.holders := by split <;> rfl
  exact congrArg (List.filter (·.1 != holder)) kept

/-- A holder that ends owns nothing any more. -/
theorem held_destruct : (client.destruct holder).held other =
    if other = holder then none else client.held other := by
  rw [held, holders_destruct, lookup_filter_bne, held]
  split <;> rfl

/-- The holder that is moved owns nothing then, and a new holder owns what that one owned. -/
theorem held_moveConstruct (source target : Text) :
    (client.moveConstruct source target).held other =
      if other = source then none
      else if other = target ∧ client.hasHolder target = false then client.held source
      else client.held other := by
  refine (held_addHolder _ target other _).trans ?_
  rw [hasHolder_setHeld, held_setHeld, ite_self]
  by_cases same : other = source
  · rw [if_pos same, if_pos same]
    split
    next new =>
      exact client.held_of_absent source (same ▸ new.1 ▸ Bool.eq_false_iff.mp new.2)
    next => rfl
  · rw [if_neg same, if_neg same]

/-- A holder that is assigned another one owns what that one owned, which owns nothing then. -/
theorem held_moveAssign {source target : Text} (different : source ≠ target)
    (present : client.hasHolder target) :
    (client.moveAssign source target).held other =
      if other = source then none
      else if other = target then client.held source
      else client.held other := by
  have moves : ¬ (source = target ∨ !client.hasHolder target) := by simp [different, present]
  have stays : (client.discard (client.held target)).hasHolder target := present
  rw [moveAssign, if_neg moves, held_setHeld, ite_self, held_setHeld, if_pos stays]
  rfl

/-- The holders keep their names. -/
theorem names_setHeld :
    (client.setHeld holder id?).holders.map Prod.fst = client.holders.map Prod.fst := by
  rw [setHeld, List.map_map]
  refine List.map_congr_left fun entry _ => ?_
  dsimp only [Function.comp]
  split
  next same => exact same.symm
  next => rfl

/-- What two holders are given can be given in any order. -/
theorem setHeld_comm (different : holder ≠ other) (other? : Option ContextId) :
    (client.setHeld holder id?).setHeld other other? =
      (client.setHeld other other?).setHeld holder id? := by
  have swapped : ∀ entry : Text × Option ContextId,
      (if (if entry.1 = holder then (holder, id?) else entry).1 = other then (other, other?)
        else if entry.1 = holder then (holder, id?) else entry) =
      (if (if entry.1 = other then (other, other?) else entry).1 = holder then (holder, id?)
        else if entry.1 = other then (other, other?) else entry) := by
    grind
  simp only [setHeld, List.map_map, Function.comp_def, swapped]

/-- A holder that ends takes off what it owns, and no more. -/
theorem handles_destruct :
    (client.destruct holder).handles = (client.setHeld holder none).handles := by
  rw [handles, holders_destruct, handles, setHeld, List.filterMap_filter, List.filterMap_map]
  refine List.filterMap_congr fun entry _ => ?_
  by_cases same : entry.1 = holder <;> simp [same]

/-- The holders own the handles that are found with them. -/
theorem mem_handles_iff (names : (client.holders.map Prod.fst).Nodup) {id : ContextId} :
    id ∈ client.handles ↔ ∃ holder, client.held holder = some id := by
  have found : ∀ holder, client.held holder = some id ↔ (holder, some id) ∈ client.holders := by
    intro holder
    rw [held, Option.join_eq_some_iff]
    exact (@Entries.mem_iff_lookup _ _ names (holder, some id)).symm
  simp only [handles, List.mem_filterMap, found, Prod.exists, exists_eq_right]

variable {client holder id?}

/-- A holder that is given something to own gives back what it owned. -/
theorem perm_handles_setHeld (names : (client.holders.map Prod.fst).Nodup)
    (taken : client.hasHolder holder = false → id? = none) :
    (id?.toList ++ client.handles).Perm
      ((client.held holder).toList ++ (client.setHeld holder id?).handles) := by
  cases found : client.holders.lookup holder with
  | none =>
    have absent : ¬ client.hasHolder holder := by rw [hasHolder, found]; nofun
    obtain rfl := taken (Bool.eq_false_iff.mpr absent)
    rw [held_of_absent _ _ absent, handles, handles, setHeld,
      map_replace_of_absent (mt (client.hasHolder_iff holder).mpr absent)]
  | some owned =>
    have owns : client.held holder = owned := by rw [held, found, Option.join_some]
    obtain ⟨earlier, later, parts, -⟩ := List.lookup_eq_some_iff.mp found
    rw [parts, List.map_append, List.map_cons, List.nodup_middle, List.nodup_cons,
      List.mem_append, not_or] at names
    simp only [owns, handles, setHeld, parts, List.map_append, List.map_cons,
      map_replace_of_absent names.1.1, map_replace_of_absent names.1.2, List.filterMap_append,
      filterMap_snd_cons, if_true]
    -- The two handles change places, past those of the earlier holders.
    refine (List.perm_append_comm_assoc _ _ _).trans (.trans ?_ (List.perm_append_comm_assoc _ _ _))
    exact (List.perm_append_comm_assoc _ _ _).append_left _

end Holders

/-- The holders own what is on account, but for a handle that may be moving between them. -/
structure Balanced (client : Client) (moving? : Option ContextId) : Prop where
  /-- No two holders have one name. -/
  names : (client.holders.map Prod.fst).Nodup
  accounts : client.Accounts (moving?.toList ++ client.handles)

namespace Balanced

variable {client : Client} {moving? : Option ContextId}

/-- Giving a holder what is moving sets moving what it owned. -/
theorem setHeld (balanced : client.Balanced moving?) (holder : Text)
    (taken : client.hasHolder holder = false → moving? = none) :
    (client.setHeld holder moving?).Balanced (client.held holder) where
  names := client.names_setHeld holder moving? ▸ balanced.names
  accounts := (balanced.accounts.perm (perm_handles_setHeld balanced.names taken)).withHolders _

/-- Destroying what is moving leaves nothing moving. -/
theorem discard (balanced : client.Balanced moving?) : (client.discard moving?).Balanced none :=
  ⟨balanced.names, balanced.accounts.discard⟩

/-- A new holder owns what was moving. -/
theorem addHolder (balanced : client.Balanced moving?) (holder : Text) :
    (client.addHolder holder moving?).Balanced none := by
  rw [Client.addHolder]
  split
  next => exact balanced.discard
  next untaken =>
    have absent := (not_congr (client.hasHolder_iff holder)).mp untaken
    refine ⟨?_, ?_⟩
    · rw [List.map_append, List.nodup_append_comm]
      exact List.nodup_cons.mpr ⟨absent, balanced.names⟩
    · have listed : Client.handles { client with
          holders := client.holders ++ [(holder, moving?)] } =
            client.handles ++ moving?.toList := by
        rw [handles, List.filterMap_append, filterMap_snd_cons, List.filterMap_nil,
          List.append_nil, handles]
      rw [listed]
      exact (balanced.accounts.perm List.perm_append_comm).withHolders _

/-- Moving to a new holder keeps the balance. -/
theorem moveConstruct (balanced : client.Balanced none) (source target : Text) :
    (client.moveConstruct source target).Balanced none :=
  (balanced.setHeld source fun _ => rfl).addHolder target

/-- Moving to a holder that is there keeps the balance. -/
theorem moveAssign (balanced : client.Balanced none) (source target : Text) :
    (client.moveAssign source target).Balanced none := by
  rw [Client.moveAssign]
  split
  next => exact balanced
  next moved =>
    obtain ⟨different, present⟩ := not_or.mp moved
    -- Taking from the source first, the handle is on its way when the target is given it.
    have order : ((client.discard (client.held target)).setHeld target
          (client.held source)).setHeld source none =
        ((client.setHeld source none).setHeld target (client.held source)).discard
          ((client.setHeld source none).held target) := by
      rw [setHeld_comm _ _ _ _ (Ne.symm different), held_setHeld, if_neg (Ne.symm different)]
      rfl
    rw [order]
    refine ((balanced.setHeld source fun _ => rfl).setHeld target fun absent => ?_).discard
    rw [hasHolder_setHeld] at absent
    rw [absent] at present
    exact absurd rfl present

/-- The end of a holder keeps the balance. -/
theorem destruct (balanced : client.Balanced none) (holder : Text) :
    (client.destruct holder).Balanced none := by
  have released := balanced.setHeld holder fun _ => rfl
  refine ⟨?_, ?_⟩
  · rw [holders_destruct]
    exact balanced.names.sublist (List.filter_sublist.map _)
  · rw [handles_destruct, Client.destruct]
    refine Accounts.withHolders ?_ _
    split
    next => exact released.discard.accounts.withHolders client.holders
    next absent =>
      rw [client.held_of_absent holder absent] at released
      exact released.accounts.withHolders client.holders

/-- Creating a context keeps the balance. -/
theorem construct (balanced : client.Balanced none) (holder : Text) (available : Bool) :
    (client.construct holder available).1.Balanced none := by
  have accounts := balanced.accounts.create available
  cases available with
  | false => exact ⟨balanced.names, accounts⟩
  | true =>
    have created : (client.request (.create true)).1.Balanced (some client.session.nextId) :=
      ⟨balanced.names, accounts⟩
    exact created.addHolder holder

/-- A query to a holder keeps the balance. -/
theorem query (balanced : client.Balanced none) (holder : Text) (query : Query) :
    (client.query holder query).1.Balanced none := by
  refine ⟨balanced.names, balanced.accounts.quiet (fun id held => ?_) nofun rfl⟩
  exact (mem_handles_iff client balanced.names).mpr ⟨holder, held⟩

/-- Asking whether a value is a variant keeps the balance. -/
theorem isVariant (balanced : client.Balanced none) (value : Text) :
    (client.isVariant value).1.Balanced none :=
  ⟨balanced.names, balanced.accounts.quiet nofun nofun rfl⟩

/-- Two holders do not own one context. -/
theorem unique (balanced : client.Balanced none) {holder other : Text} {id : ContextId}
    (owned : client.held holder = some id) (again : client.held other = some id) :
    other = holder := by
  by_contra different
  -- If the first one gives the handle back, it is found with the other one no longer.
  have released := balanced.setHeld holder fun _ => rfl
  have notLeft := released.accounts.distinct
  rw [owned] at notLeft
  refine (List.nodup_cons.mp notLeft).1 ((mem_handles_iff _ released.names).mpr ⟨other, ?_⟩)
  rw [held_setHeld, if_neg different, again]

end Balanced

section Calls

variable {motive : Client → Prop} {holder : Text}

/-- Asking for keys preserves what every query preserves. -/
theorem formKeysAt_preserves
    (preserved : ∀ client query, motive client → motive (client.query holder query).1)
    {client : Client} (holds : motive client) (value : Text) (indices : List Nat) :
    motive (client.formKeysAt holder value indices).1 := by
  induction indices generalizing client with
  | nil => exact holds
  | cons index indices inductionHypothesis =>
    have asked := preserved client (.formKey (some value) index true) holds
    rw [formKeysAt, askText, ask_eq]
    cases (client.query holder (.formKey (some value) index true)).2 with
    | error failure => exact asked
    | ok reply => exact inductionHypothesis asked

/-- A method preserves what every query preserves, since it does nothing else than to put
queries. -/
theorem call_preserves
    (preserved : ∀ client query, motive client → motive (client.query holder query).1)
    {client : Client} (holds : motive client) (method : Method) :
    motive (client.call holder method).1 := by
  have asked : ∀ query, motive (client.ask holder query).1 := fun query => by
    rw [ask_eq]
    exact preserved client query holds
  cases method with
  | lastError => exact holds
  | locale => exact holds
  | formKeys value =>
    have counted := preserved client (.formCount (some value)) holds
    change motive (client.formKeys holder value).1
    rw [formKeys]
    dsimp only
    split
    next => exact counted
    next => exact formKeysAt_preserves preserved counted value _
  | _ => exact asked _

variable {client : Client}

/-- A method of a holder that owns nothing changes neither the session nor the holders. -/
theorem call_of_nothing (nothing : client.held holder = none) (method : Method) :
    (client.call holder method).1.session = client.session ∧
      (client.call holder method).1.holders = client.holders := by
  refine call_preserves (motive := fun after =>
    after.session = client.session ∧ after.holders = client.holders) ?_ ⟨rfl, rfl⟩ method
  rintro after query ⟨session, holders⟩
  have stillNothing : after.held holder = none := by rw [held, holders, ← held, nothing]
  rw [session_query, stillNothing]
  exact ⟨session, holders⟩

/-- What a method of a holder that owns nothing gives: an empty locale, the last error, or an
exception. -/
def Method.withoutContext : Method → Except Thrown Result
  | .locale => .ok (.text [])
  | .lastError => .ok (.error (-2) "Invalid context (NULL)")
  | _ => .error ⟨-2, "Invalid context (NULL)"⟩

/-- A method of a holder that owns nothing gives what it gives without a context. -/
theorem result_call_of_nothing (nothing : client.held holder = none) (method : Method) :
    (client.call holder method).2 = method.withoutContext := by
  have missing : client.context? holder = none := by rw [context?, nothing]; rfl
  have thrown : ∀ query, (client.ask holder query).2 = .error Failure.missingContext.thrown := by
    intro query
    rw [ask_eq, outcome_query_of_missing query missing]
    rfl
  cases method with
  | lastError =>
    change Except.ok (Result.error (client.lastError holder).1 (client.lastError holder).2) = _
    rw [lastError, nothing]
    rfl
  | locale =>
    change Except.ok (Result.text (client.locale holder)) = _
    rw [Client.locale, nothing]
    rfl
  | formKeys value =>
    have throws := formKeys_of_error (outcome_query_of_missing (.formCount (some value)) missing)
    rw [call, throws]
    rfl
  | _ =>
    simp only [call, setLocale, setCategorizer, render, activeKey, formTemplate, activeFormEquals,
      category, askText, thrown]
    rfl

end Calls

/-- The account of a client that has made no request is empty. -/
theorem balanced_start (builtIn : PluralRules) : (ofSession (.start builtIn)).Balanced none where
  names := List.nodup_nil
  accounts :=
    have unmade : ∀ id, ¬ (ofSession (.start builtIn)).Made id := fun _ made =>
      List.not_mem_nil made.choose_spec.1
    { distinct := List.nodup_nil
      made := fun member => absurd member List.not_mem_nil
      live := fun _ => iff_of_false List.not_mem_nil Bool.false_ne_true
      destroyed := fun made => absurd made (unmade _)
      given := fun made => absurd made (unmade _)
      used := fun _ member => absurd member List.not_mem_nil
      unused := .nil }

variable {client : Client}

/-- A step keeps the balance. -/
theorem Balanced.afterStep (balanced : client.Balanced none) (step : Step) :
    (client.afterStep step).Balanced none := by
  cases step with
  | construct holder available => exact balanced.construct holder available
  | moveConstruct source target => exact balanced.moveConstruct source target
  | moveAssign source target => exact balanced.moveAssign source target
  | destruct holder => exact balanced.destruct holder
  | call holder method =>
    exact call_preserves (motive := fun after => after.Balanced none)
      (fun _ query before => before.query holder query) balanced method
  | isVariant value => exact balanced.isVariant value

/-- A list of steps keeps the balance. -/
theorem Balanced.after (balanced : client.Balanced none) (steps : List Step) :
    (client.after steps).Balanced none := by
  induction steps generalizing client with
  | nil => exact balanced
  | cons step steps inductionHypothesis => exact inductionHypothesis (balanced.afterStep step)

/-- The holders that a step makes, ends, or moves a context between. -/
def Step.holders : Step → List Text
  | .construct holder _ | .destruct holder => [holder]
  | .moveConstruct source target | .moveAssign source target => [source, target]
  | .call _ _ | .isVariant _ => []

/-- A step leaves to all other holders what they own. -/
theorem held_afterStep (step : Step) {other : Text} (notConcerned : other ∉ step.holders) :
    (client.afterStep step).held other = client.held other := by
  cases step with
  | construct holder available =>
    have different : other ≠ holder := fun same => notConcerned (same ▸ List.mem_singleton_self _)
    cases available with
    | false => rfl
    | true =>
      refine (held_addHolder _ holder other _).trans (if_neg ?_)
      exact fun taken => different taken.1
  | moveConstruct source target =>
    obtain ⟨notSource, notTarget⟩ : other ≠ source ∧ other ≠ target := by
      simpa [Step.holders] using notConcerned
    refine (client.held_moveConstruct other source target).trans ?_
    rw [if_neg notSource, if_neg fun taken => notTarget taken.1]
  | moveAssign source target =>
    obtain ⟨notSource, notTarget⟩ : other ≠ source ∧ other ≠ target := by
      simpa [Step.holders] using notConcerned
    by_cases moves : source ≠ target ∧ client.hasHolder target
    · refine (client.held_moveAssign other moves.1 moves.2).trans ?_
      rw [if_neg notSource, if_neg notTarget]
    · have unmoved : source = target ∨ !client.hasHolder target := by
        simpa [imp_iff_not_or] using moves
      exact congrArg (held · other) (if_pos unmoved)
  | destruct holder =>
    have different : other ≠ holder := fun same => notConcerned (same ▸ List.mem_singleton_self _)
    exact (client.held_destruct holder other).trans (if_neg different)
  | call holder method =>
    exact call_preserves (motive := fun after => after.held other = client.held other)
      (fun _ _ same => same) rfl method
  | isVariant value => rfl

/-- How a client owns contexts, and what its next step can do to them. -/
structure OwnsContexts (client : Client) : Prop where
  /-- No two holders have one name. -/
  names : (client.holders.map Prod.fst).Nodup
  /-- A context that was created belongs to one holder and was not destroyed, or it was destroyed
  once and belongs to none. -/
  accounted {id : ContextId} (made : client.Made id) :
    (∃! holder, client.held holder = some id) ∧ client.destructions id = 0 ∨
      (∀ holder, client.held holder ≠ some id) ∧ client.destructions id = 1
  /-- What a holder owns was created. -/
  made {holder : Text} {id : ContextId} (owned : client.held holder = some id) : client.Made id
  /-- The session has the contexts that the holders own, and no others. -/
  live (id : ContextId) :
    (∃ holder, client.held holder = some id) ↔ (client.session.context? (some id)).isSome
  /-- Requests are made with the handles of contexts that were created. -/
  used (exchange : Exchange) (member : exchange ∈ client.exchanges) {id : ContextId}
    (uses : exchange.request.handle? = some id) : client.Made id
  /-- No request is made with the handle of a context that was destroyed before. -/
  unused : client.exchanges.Pairwise fun earlier later => ∀ id,
    earlier.request.destroyed? = some id → later.request.handle? ≠ some id
  /-- A step leaves to all holders that it is not about what they own. -/
  others (step : Step) {other : Text} (notConcerned : other ∉ step.holders) :
    (client.afterStep step).held other = client.held other
  /-- A new holder owns a context that was created for it. -/
  constructed {holder : Text} (fresh : client.hasHolder holder = false) :
    ∃ id, ¬ client.Made id ∧ (client.construct holder true).1.held holder = some id
  /-- If the context cannot be created, there is no new holder, and an exception is thrown. -/
  failed (holder : Text) :
    (client.construct holder false).1.holders = client.holders ∧
      (client.construct holder false).2 = .error ⟨-1, "Context creation failed"⟩
  /-- A holder that is made from another one owns what that one owned. -/
  moveConstructed (source : Text) {target : Text} (fresh : client.hasHolder target = false) :
    (client.moveConstruct source target).held target = client.held source
  /-- The other one owns nothing then. -/
  movedFrom (source target : Text) : (client.moveConstruct source target).held source = none
  /-- A holder that is assigned another one owns what that one owned, which owns nothing then. -/
  moveAssigned {source target : Text} (different : source ≠ target)
    (present : client.hasHolder target) :
    (client.moveAssign source target).held target = client.held source ∧
      (client.moveAssign source target).held source = none
  /-- A move of a holder to itself changes nothing. -/
  selfMoved (holder : Text) : client.moveAssign holder holder = client
  /-- A holder that ends is no longer there. -/
  ended (holder : Text) : (client.destruct holder).hasHolder holder = false
  /-- A holder that owns nothing has an empty locale and throws in all other methods, and nothing
  happens to any context or holder. -/
  withoutContext {holder : Text} (nothing : client.held holder = none) (method : Method) :
    (client.call holder method).2 = method.withoutContext ∧
      (client.call holder method).1.session = client.session ∧
      (client.call holder method).1.holders = client.holders

/-- A client whose holders own what is on account owns its contexts. -/
theorem Balanced.ownsContexts (balanced : client.Balanced none) : client.OwnsContexts where
  names := balanced.names
  accounted {id} made := by
    have destroyed := balanced.accounts.destroyed made
    have owned : id ∈ client.handles ↔ ∃ holder, client.held holder = some id :=
      client.mem_handles_iff balanced.names
    by_cases member : id ∈ client.handles
    · obtain ⟨holder, held⟩ := owned.mp member
      exact .inl ⟨⟨holder, held, fun other again => balanced.unique held again⟩,
        destroyed.trans (if_pos member)⟩
    · exact .inr ⟨fun holder held => member (owned.mpr ⟨holder, held⟩),
        destroyed.trans (if_neg member)⟩
  made owned := balanced.accounts.made ((client.mem_handles_iff balanced.names).mpr ⟨_, owned⟩)
  live id := (client.mem_handles_iff balanced.names).symm.trans (balanced.accounts.live id)
  used := balanced.accounts.used
  unused := balanced.accounts.unused
  others step _ notConcerned := held_afterStep step notConcerned
  constructed {holder} fresh :=
    ⟨client.session.nextId, fun made => Nat.lt_irrefl _ (balanced.accounts.given made),
      (held_addHolder _ holder holder _).trans (if_pos ⟨rfl, fresh⟩)⟩
  failed _ := ⟨rfl, rfl⟩
  moveConstructed source {target} fresh := by
    rw [held_moveConstruct]
    split
    next same => exact (client.held_of_absent source (same ▸ Bool.eq_false_iff.mp fresh)).symm
    next => exact if_pos ⟨rfl, fresh⟩
  movedFrom source target := (client.held_moveConstruct source source target).trans (if_pos rfl)
  moveAssigned {source target} different present := by
    rw [client.held_moveAssign target different present, if_neg (Ne.symm different), if_pos rfl,
      client.held_moveAssign source different present, if_pos rfl]
    exact ⟨rfl, rfl⟩
  selfMoved _ := if_pos (.inl rfl)
  ended holder := by rw [hasHolder, holders_destruct, lookup_filter_bne, if_pos rfl]; rfl
  withoutContext nothing method :=
    ⟨result_call_of_nothing nothing method, call_of_nothing nothing method⟩

/-- Whatever steps a client has taken, it owns its contexts. -/
theorem ownsContexts_after (builtIn : PluralRules) (steps : List Step) :
    ((ofSession (.start builtIn)).after steps).OwnsContexts :=
  ((balanced_start builtIn).after steps).ownsContexts

/-- One holder is assigned over another one and then moved, to itself and on to a new holder. The
holders that are left without a context are assigned to each other. -/
def shuffle : List Step :=
  [.construct "a" true, .construct "b" true, .construct "c" false, .moveAssign "b" "a",
    .moveAssign "a" "a", .moveConstruct "a" "d", .moveAssign "a" "b"]

/-- The first context was destroyed when another one was assigned over it, and the second one has
reached the last holder. Nothing is left for the first holder to ask. -/
theorem ownsContexts_after_shuffle :
    ((ofSession .initial).after shuffle).destructions 1 = 1 ∧
      (∃! holder, ((ofSession .initial).after shuffle).held holder = some 2) ∧
      (((ofSession .initial).after shuffle).call "a" (.formKeys "x")).2 =
        .error ⟨-2, "Invalid context (NULL)"⟩ := by
  have owns := ownsContexts_after .builtIn shuffle
  have madeFirst : ((ofSession .initial).after shuffle).Made 1 := by decide +kernel
  have madeSecond : ((ofSession .initial).after shuffle).Made 2 := by decide +kernel
  have reached : ((ofSession .initial).after shuffle).held "d" = some 2 := by decide +kernel
  have nothing : ((ofSession .initial).after shuffle).held "a" = none := by decide +kernel
  refine ⟨?_, ?_, (owns.withoutContext nothing (.formKeys "x")).1⟩
  · obtain ⟨-, spared⟩ | ⟨-, destroyed⟩ := owns.accounted madeFirst
    · exact absurd spared (by decide +kernel)
    · exact destroyed
  · obtain ⟨only, -⟩ | ⟨nowhere, -⟩ := owns.accounted madeSecond
    · exact only
    · exact absurd reached (nowhere "d")

end Client

end MessageForms
