import MessageForms.Json.Document
import MessageForms.Proofs.Entries
import MessageForms.Proofs.Json.Lexical

/-!
# Reading what was written

A value whose objects repeat no name is read back from its own tokens, whatever containers
are open around it. Conversely every value that is read repeats no name, and its atoms are
among the tokens it was read from. Where a document ends matters only if a NUL byte follows
it.
-/

namespace MessageForms

namespace Json

/-- A value that repeats no name in an object and whose atoms, names included, are allowed
tokens. -/
inductive Over (allowed : Token → Prop) : Json → Prop where
  | atom {value : Atom} (isAllowed : allowed (.atom value)) : Over allowed (.atom value)
  | array {items : List Json} (each : ∀ item ∈ items, Over allowed item) :
      Over allowed (.array items)
  | object {members : List (Text × Json)} (distinct : (members.map Prod.fst).Nodup)
      (names : ∀ member ∈ members, allowed (.atom (.string member.1)))
      (values : ∀ member ∈ members, Over allowed member.2) : Over allowed (.object members)

/-- The tokens of items, one after the other. -/
theorem itemTokens_eq (items : List Json) :
    itemTokens items = items.flatMap fun item => .comma :: tokens item := by
  induction items with
  | nil => rfl
  | cons item items inductionHypothesis => simp [itemTokens, inductionHypothesis]

/-- The tokens of members, one after the other. -/
theorem memberTokens_eq (members : List (Text × Json)) :
    memberTokens members = members.flatMap fun member =>
      .comma :: .atom (.string member.1) :: .colon :: tokens member.2 := by
  induction members with
  | nil => rfl
  | cons member members inductionHypothesis =>
    obtain ⟨name, json⟩ := member
    simp [memberTokens, pairTokens, inductionHypothesis]

/-- The tokens of an array with something in it. -/
theorem tokens_array_cons (item : Json) (items : List Json) :
    tokens (.array (item :: items)) =
      .openArray :: (tokens item ++
        ((items.flatMap fun item => .comma :: tokens item) ++ [.closeArray])) := by
  simp [tokens, itemTokens, itemTokens_eq]

/-- The tokens of an object with something in it. -/
theorem tokens_object_cons (name : Text) (json : Json) (members : List (Text × Json)) :
    tokens (.object ((name, json) :: members)) =
      .openObject :: .atom (.string name) :: .colon :: (tokens json ++
        ((members.flatMap fun member =>
          .comma :: .atom (.string member.1) :: .colon :: tokens member.2) ++
          [.closeObject])) := by
  simp [tokens, memberTokens, pairTokens, memberTokens_eq]

/-- A value does not begin with the end of an array. -/
theorem exists_tokens_eq_cons (json : Json) :
    ∃ first rest, json.tokens = first :: rest ∧ first ≠ .closeArray := by
  cases json with
  | atom value => exact ⟨_, _, rfl, nofun⟩
  | array items => exact ⟨.openArray, (itemTokens items).tail ++ [.closeArray], rfl, nofun⟩
  | object members => exact ⟨.openObject, (memberTokens members).tail ++ [.closeObject], rfl, nofun⟩

/-- A container whose parts repeat no name and are allowed. -/
def Container.Over (allowed : Token → Prop) : Container → Prop
  | .array items => (Json.array items).Over allowed
  | .object members key =>
    (Json.object members).Over allowed ∧ allowed (.atom (.string key))

namespace Over

variable {allowed : Token → Prop}

/-- More tokens may be allowed. -/
theorem mono {more : Token → Prop} (allowsMore : ∀ token, allowed token → more token)
    {json : Json} (isOver : json.Over allowed) : json.Over more := by
  induction isOver with
  | atom isAllowed => exact .atom (allowsMore _ isAllowed)
  | array each inductionHypothesis => exact .array inductionHypothesis
  | object distinct names values inductionHypothesis =>
    exact .object distinct (fun member inMembers => allowsMore _ (names member inMembers))
      inductionHypothesis

/-- An array may have one more item. -/
theorem cons {item : Json} {items : List Json} (itemOver : item.Over allowed)
    (itemsOver : (Json.array items).Over allowed) : (Json.array (item :: items)).Over allowed := by
  cases itemsOver with
  | array each => exact .array (List.forall_mem_cons.mpr ⟨itemOver, each⟩)

/-- The order of items does not matter. -/
theorem reverse {items : List Json} (itemsOver : (Json.array items).Over allowed) :
    (Json.array items.reverse).Over allowed := by
  cases itemsOver with
  | array each => exact .array fun item member => each item (List.mem_reverse.mp member)

/-- An object may have a value put under an allowed name. -/
theorem put {name : Text} {json : Json} {members : List (Text × Json)}
    (nameAllowed : allowed (.atom (.string name))) (jsonOver : json.Over allowed)
    (membersOver : (Json.object members).Over allowed) :
    (Json.object (Entries.put name json members)).Over allowed := by
  cases membersOver with
  | object distinct names values =>
    refine .object (Entries.nodup_put distinct) (fun member inPut => ?_) fun member inPut => ?_
    · rcases Entries.mem_put inPut with rfl | old
      · exact nameAllowed
      · exact names member old
    · rcases Entries.mem_put inPut with rfl | old
      · exact jsonOver
      · exact values member old

/-- The items of an array are such values too. -/
theorem items {json : Json} (isOver : json.Over allowed) :
    ∀ item ∈ json.items, item.Over allowed := by
  cases isOver with
  | array each => exact each
  | _ => exact nofun

/-- The members of an object are such values too. -/
theorem member? {json value : Json} {name : Text} (isOver : json.Over allowed)
    (found : json.member? name = some value) : value.Over allowed := by
  cases isOver with
  | object distinct names values => exact values (name, value) (Entries.mem_of_lookup found)
  | _ => cases found

/-- A string is an allowed token. -/
theorem text? {json : Json} {text : Text} (isOver : json.Over allowed)
    (spelled : json.text? = some text) : allowed (.atom (.string text)) := by
  cases isOver with
  | @atom value isAllowed =>
    cases value with
    | string content =>
      cases spelled
      exact isAllowed
    | _ => cases spelled
  | _ => cases spelled

end Over

namespace Reader

/-- Reads a sequence of tokens. -/
def run (reader : Reader) (tokens : List Token) : Option Reader :=
  tokens.foldlM step reader

@[simp] theorem run_nil (reader : Reader) : reader.run [] = some reader := rfl

@[simp] theorem run_cons (reader : Reader) (token : Token) (tokens : List Token) :
    reader.run (token :: tokens) = (reader.step token).bind fun next => next.run tokens := rfl

/-- Sequences of tokens are read one after the other. -/
theorem run_append (reader : Reader) (left right : List Token) :
    reader.run (left ++ right) = (reader.run left).bind fun next => next.run right := by
  simp [run]

/-- The first item of an array is read as a value is. -/
theorem run_firstItem (json : Json) (outer : List Container) :
    (firstItem outer).run json.tokens = (value (.array [] :: outer)).run json.tokens := by
  obtain ⟨first, rest, shape, notEnd⟩ := exists_tokens_eq_cons json
  have same : (firstItem outer).step first = (value (.array [] :: outer)).step first := by
    cases first <;> first | rfl | exact absurd rfl notEnd
  rw [shape, run_cons, run_cons, same]

/-- Further items of an array are read after the items before them. -/
theorem run_items {items : List Json} {outer : List Container}
    (each : ∀ item ∈ items, ∀ outer, (value outer).run item.tokens = some (close item outer))
    (read : List Json) :
    (nextItem read outer).run (items.flatMap fun item => .comma :: tokens item) =
      some (nextItem (items.reverse ++ read) outer) := by
  induction items generalizing read with
  | nil => rfl
  | cons item items inductionHypothesis =>
    have first := each item List.mem_cons_self (.array read :: outer)
    have rest := inductionHypothesis
      (fun other member => each other (List.mem_cons_of_mem _ member))
      (item :: read)
    rw [List.flatMap_cons, run_append, run_cons]
    simp only [step, Option.bind_some, first, close, rest, List.reverse_cons, List.append_assoc,
      List.singleton_append]

/-- Further members of an object are read after the members before them. -/
theorem run_members {members : List (Text × Json)} {outer : List Container}
    (each : ∀ member ∈ members, ∀ outer,
      (value outer).run (tokens member.2) = some (close member.2 outer))
    (read : List (Text × Json)) (distinct : ((read ++ members).map Prod.fst).Nodup) :
    (nextMember read outer).run (members.flatMap fun member =>
        .comma :: .atom (.string member.1) :: .colon :: tokens member.2) =
      some (nextMember (read ++ members) outer) := by
  induction members generalizing read with
  | nil => simp
  | cons member members inductionHypothesis =>
    have first := each member List.mem_cons_self (.object read member.1 :: outer)
    have fresh : member.1 ∉ read.map Prod.fst := by
      rw [List.map_append, List.nodup_append] at distinct
      exact fun old => distinct.2.2 _ old _ List.mem_cons_self rfl
    have rest := inductionHypothesis
      (fun other inRest => each other (List.mem_cons_of_mem _ inRest)) (read ++ [member])
      (by simpa using distinct)
    rw [List.flatMap_cons, run_append]
    simp only [run_cons, step, Option.bind_some, first, close, Entries.put_of_not_mem _ fresh]
    simpa using rest

/-- An array is read if its items are. -/
theorem run_array {items : List Json} {outer : List Container}
    (each : ∀ item ∈ items, ∀ outer, (value outer).run item.tokens = some (close item outer)) :
    (value outer).run (tokens (.array items)) = some (close (.array items) outer) := by
  cases items with
  | nil => rfl
  | cons item items =>
    obtain ⟨first, others⟩ := List.forall_mem_cons.mp each
    calc
      (value outer).run (tokens (.array (item :: items)))
        = ((firstItem outer).run item.tokens).bind fun next => next.run
            ((items.flatMap fun item => .comma :: tokens item) ++ [.closeArray]) := by
          rw [tokens_array_cons, run_cons, ← run_append]
          rfl
      _ = (nextItem [item] outer).run
            ((items.flatMap fun item => .comma :: tokens item) ++ [.closeArray]) := by
          rw [run_firstItem, first]
          rfl
      _ = (nextItem (items.reverse ++ [item]) outer).run [.closeArray] := by
          rw [run_append, run_items others]
          rfl
      _ = some (close (.array (item :: items)) outer) := by simp [step]

/-- An object is read if the values of its members are, and no name is repeated. -/
theorem run_object {members : List (Text × Json)} {outer : List Container}
    (distinct : (members.map Prod.fst).Nodup)
    (each : ∀ member ∈ members, ∀ outer,
      (value outer).run (tokens member.2) = some (close member.2 outer)) :
    (value outer).run (tokens (.object members)) = some (close (.object members) outer) := by
  cases members with
  | nil => rfl
  | cons member members =>
    obtain ⟨name, json⟩ := member
    obtain ⟨first, others⟩ := List.forall_mem_cons.mp each
    let later : List Token := members.flatMap fun member =>
      .comma :: .atom (.string member.1) :: .colon :: tokens member.2
    calc
      (value outer).run (tokens (.object ((name, json) :: members)))
        = ((value (.object [] name :: outer)).run json.tokens).bind fun next =>
            next.run (later ++ [.closeObject]) := by
          rw [tokens_object_cons, run_cons, ← run_append]
          rfl
      _ = (nextMember [(name, json)] outer).run (later ++ [.closeObject]) := by
          rw [first]
          rfl
      _ = (nextMember ([(name, json)] ++ members) outer).run [.closeObject] := by
          rw [run_append, run_members others [(name, json)] distinct]
          rfl
      _ = some (close (.object ((name, json) :: members)) outer) := rfl

/-- A value that repeats no name is read from its tokens inside any open containers. -/
theorem run_tokens {allowed : Token → Prop} {json : Json} (isOver : json.Over allowed)
    (outer : List Container) : (value outer).run json.tokens = some (close json outer) := by
  induction isOver generalizing outer with
  | atom => rfl
  | array each inductionHypothesis => exact run_array inductionHypothesis
  | object distinct names values inductionHypothesis =>
    exact run_object distinct inductionHypothesis

variable {allowed : Token → Prop}

/-- A reader that has read only values that repeat no name and are allowed. -/
def Over (allowed : Token → Prop) : Reader → Prop
  | value outer | firstItem outer | firstName outer =>
    ∀ container ∈ outer, container.Over allowed
  | nextItem items outer =>
    (Json.array items).Over allowed ∧ ∀ container ∈ outer, container.Over allowed
  | name members outer | nextMember members outer =>
    (Json.object members).Over allowed ∧ ∀ container ∈ outer, container.Over allowed
  | colon members key outer =>
    ((Json.object members).Over allowed ∧ allowed (.atom (.string key))) ∧
      ∀ container ∈ outer, container.Over allowed
  | done json => json.Over allowed

/-- A complete value is put into the innermost container. -/
theorem over_close {json : Json} {outer : List Container} (jsonOver : json.Over allowed)
    (outerOver : ∀ container ∈ outer, container.Over allowed) :
    (close json outer).Over allowed := by
  cases outer with
  | nil => exact jsonOver
  | cons container outer =>
    obtain ⟨containerOver, rest⟩ := List.forall_mem_cons.mp outerOver
    cases container with
    | array items => exact ⟨jsonOver.cons containerOver, rest⟩
    | object members key => exact ⟨jsonOver.put containerOver.2 containerOver.1, rest⟩

/-- The first token of a value opens a container or is the value. -/
theorem over_opening {token : Token} {next : Reader} {outer : List Container}
    (isAllowed : allowed token) (outerOver : ∀ container ∈ outer, container.Over allowed)
    (opened : opening outer token = some next) : next.Over allowed := by
  cases token with
  | atom content =>
    cases opened
    exact over_close (.atom isAllowed) outerOver
  | openArray | openObject =>
    cases opened
    exact outerOver
  | closeArray | closeObject | colon | comma => cases opened

/-- Each token keeps what has been read free of repeated names, and allowed. -/
theorem over_step {reader next : Reader} {token : Token} (isOver : reader.Over allowed)
    (isAllowed : allowed token) (step : reader.step token = some next) : next.Over allowed := by
  have noItems : (Json.array []).Over allowed := .array nofun
  have noMembers : (Json.object []).Over allowed := .object .nil nofun nofun
  cases reader with
  | value outer => exact over_opening isAllowed isOver step
  | firstItem outer =>
    cases token with
    | closeArray =>
      cases step
      exact over_close noItems isOver
    | _ =>
      have inside : ∀ container ∈ Container.array [] :: outer, container.Over allowed := by
        intro container member
        rcases List.mem_cons.mp member with rfl | old
        · exact noItems
        · exact isOver container old
      exact over_opening isAllowed inside step
  | nextItem items outer =>
    cases token <;> cases step
    · exact over_close isOver.1.reverse isOver.2
    · exact List.forall_mem_cons.mpr isOver
  | firstName outer =>
    cases token with
    | closeObject =>
      cases step
      exact over_close noMembers isOver
    | atom content =>
      cases content <;> cases step
      exact ⟨⟨noMembers, isAllowed⟩, isOver⟩
    | _ => cases step
  | name members outer =>
    cases token with
    | atom content =>
      cases content <;> cases step
      exact ⟨⟨isOver.1, isAllowed⟩, isOver.2⟩
    | _ => cases step
  | colon members key outer =>
    cases token <;> cases step
    exact List.forall_mem_cons.mpr isOver
  | nextMember members outer =>
    cases token <;> cases step
    · exact over_close isOver.1 isOver.2
    · exact isOver
  | done json => cases step

/-- Allowed tokens are read into a value that repeats no name and is allowed. -/
theorem over_run {reader next : Reader} {tokens : List Token} (isOver : reader.Over allowed)
    (isAllowed : ∀ token ∈ tokens, allowed token) (run : reader.run tokens = some next) :
    next.Over allowed := by
  induction tokens generalizing reader with
  | nil =>
    cases run
    exact isOver
  | cons token tokens inductionHypothesis =>
    obtain ⟨middle, step, rest⟩ := Option.bind_eq_some_iff.mp run
    obtain ⟨head, tail⟩ := List.forall_mem_cons.mp isAllowed
    exact inductionHypothesis (over_step isOver head step) tail rest

end Reader

/-- What is read consists of the tokens of a well-formed document. -/
theorem exists_of_read? {text : Text} {ending : Ending} {json : Json}
    (read : read? text ending = some json) :
    ∃ tokens, Utf8.isValid (ending.document text) ∧
      scan (ending.document text) = some tokens ∧ ofTokens? tokens = some json := by
  obtain ⟨valid, spelled⟩ := Option.ite_none_right_eq_some.mp read
  obtain ⟨tokens, scanned, spelled⟩ := Option.bind_eq_some_iff.mp spelled
  exact ⟨tokens, valid, scanned, spelled⟩

/-- What is read repeats no name, and its strings are well-formed. -/
theorem over_of_read? {text : Text} {ending : Ending} {json : Json}
    (read : read? text ending = some json) : json.Over Token.IsUtf8 := by
  obtain ⟨tokens, valid, scanned, spelled⟩ := exists_of_read? read
  unfold ofTokens? at spelled
  split at spelled
  next complete run =>
    cases spelled
    have start : (Reader.value []).Over Token.IsUtf8 := nofun
    exact Reader.over_run start (isUtf8_of_scan valid scanned) run
  next => cases spelled

/-- A text without a NUL byte is a document as a whole. -/
theorem Ending.document_of_not_mem {text : Text} (unended : Byte.nul ∉ text) (ending : Ending) :
    ending.document text = text := by
  cases ending with
  | withText => rfl
  | atNul => exact Text.before_of_not_mem unended

/-- Where documents end makes no difference to a text without a NUL byte. -/
theorem read?_of_not_mem {text : Text} (unended : Byte.nul ∉ text) (ending : Ending) :
    read? text ending = read? text := by
  simp only [read?, Ending.document_of_not_mem unended]

/-- A document with a NUL byte behind it is read if the document ends there, whatever else
follows. -/
theorem read?_atNul {document : Text} (unended : Byte.nul ∉ document) (rest : Text) :
    read? (document ++ Byte.nul :: rest) .atNul = read? document := by
  have cut : (document ++ Byte.nul :: rest).untilNul = document :=
    Text.before_append unended rest
  rw [read?, Ending.document, cut]
  rfl

/-- What is read to the end of a text is read from it wherever documents end. -/
theorem read?_of_read? {text : Text} {json : Json} (read : read? text = some json)
    (ending : Ending) : read? text ending = some json := by
  obtain ⟨tokens, -, scanned, -⟩ := exists_of_read? read
  exact (read?_of_not_mem (nul_not_mem_of_scan scanned) ending).trans read

/-- The tokens of a container are its brackets and the tokens between them. -/
theorem allowed_of_mem_bracketed {allowed : Token → Prop} {first last : Token}
    {inner : List Token} (isFirst : allowed first) (isLast : allowed last)
    (isInner : ∀ token ∈ inner, allowed token) :
    ∀ token ∈ first :: inner.tail ++ [last], allowed token := by
  intro token member
  rw [List.cons_append, List.mem_cons, List.mem_append, List.mem_singleton] at member
  rcases member with rfl | inTail | rfl
  · exact isFirst
  · exact isInner token (List.mem_of_mem_tail inTail)
  · exact isLast

/-- The tokens of a value are its atoms and delimiters. -/
theorem allowed_of_mem_tokens {allowed : Token → Prop} {json : Json}
    (delimiters : ∀ token, (∀ value, token ≠ .atom value) → allowed token)
    (isOver : json.Over allowed) : ∀ token ∈ json.tokens, allowed token := by
  induction isOver with
  | atom isAllowed => simpa [tokens] using isAllowed
  | @array items each inductionHypothesis =>
    refine allowed_of_mem_bracketed (delimiters _ nofun) (delimiters _ nofun) ?_
    intro token member
    rw [itemTokens_eq] at member
    obtain ⟨item, inArray, inItem⟩ := List.mem_flatMap.mp member
    rcases List.mem_cons.mp inItem with rfl | inTokens
    · exact delimiters _ nofun
    · exact inductionHypothesis item inArray token inTokens
  | @object members distinct names values inductionHypothesis =>
    refine allowed_of_mem_bracketed (delimiters _ nofun) (delimiters _ nofun) ?_
    intro token member
    rw [memberTokens_eq] at member
    obtain ⟨named, inObject, inNamed⟩ := List.mem_flatMap.mp member
    rw [List.mem_cons, List.mem_cons, List.mem_cons] at inNamed
    rcases inNamed with rfl | rfl | rfl | inTokens
    · exact delimiters _ nofun
    · exact names named inObject
    · exact delimiters _ nofun
    · exact inductionHypothesis named inObject token inTokens

/-- A token that ends itself is no string that is malformed. -/
theorem isUtf8_of_endsItself {token : Token} (ends : token.EndsItself) : token.IsUtf8 := by
  cases token with
  | atom value =>
    cases value with
    | string text => exact ends
    | _ => trivial
  | _ => trivial

/-- Delimiters end themselves. -/
theorem endsItself_of_delimiter (token : Token) (delimiter : ∀ value, token ≠ .atom value) :
    token.EndsItself := by
  cases token with
  | atom value => exact absurd rfl (delimiter value)
  | _ => trivial

/-- A value with well-formed strings is written well-formed. -/
theorem isValid_write_of_over {json : Json} (isOver : json.Over Token.IsUtf8) :
    Utf8.isValid json.write := by
  have utf8 := allowed_of_mem_tokens (fun token delimiter =>
    isUtf8_of_endsItself (endsItself_of_delimiter token delimiter)) isOver
  exact Utf8.isValid_flatMap fun token member => isValid_write (utf8 token member)

/-- A value made of strings alone is read back from its written form. -/
theorem read?_write {json : Json} (isOver : json.Over Token.EndsItself) (ending : Ending) :
    read? json.write ending = some json := by
  have ends := allowed_of_mem_tokens endsItself_of_delimiter isOver
  have valid : Utf8.isValid json.write := Utf8.isValid_flatMap fun token member =>
    isValid_write (isUtf8_of_endsItself (ends token member))
  have scanned : scan json.write = some json.tokens := scan_flatMap_write ends
  have spelled : ofTokens? json.tokens = some json := by
    have run : json.tokens.foldlM Reader.step (.value []) = some (.done json) :=
      Reader.run_tokens isOver []
    simp [ofTokens?, run]
  have read : read? json.write = some json := by
    calc
      read? json.write
        = (scan json.write).bind ofTokens? := if_pos valid
      _ = some json := by rw [scanned, Option.bind_some, spelled]
  exact read?_of_read? read ending

end Json

end MessageForms
