import ConfigWatch.Proofs.Cache.Renaming
import ConfigWatch.Proofs.Client.Handling
import Mathlib.Logic.Equiv.Basic

/-!
# Replies commute

Two replies for different subscriptions may be handled in either order. They meet in the index by
checksum alone: if both decode a payload there, the order decides which of the two contents is the
older one, and nothing else.
-/

set_option autoImplicit false

namespace ConfigWatch

/-! ## The catalogue -/

/-- A payload that a reply offers: its checksum and what it decodes to. -/
structure Offer where
  checksum : Bytes
  decoded : Except DecodeError Payload.Decoded

namespace Catalogue

/-- The content that an offer resolves to, if there is an offer. -/
def answer (catalogue : Catalogue) (offer : Option Offer) : Option Content :=
  offer.bind (fun offer => catalogue.resolve offer.checksum offer.decoded)

/-- A catalogue after an offer. -/
def after (catalogue : Catalogue) (offer : Option Offer) : Catalogue :=
  catalogue.file (catalogue.answer offer)

/-- The contents of a catalogue stand under their checksums, and were decoded. -/
structure Sound (catalogue : Catalogue) : Prop where
  labelled : ∀ checksum content, catalogue.index.get? checksum = some content →
    content.checksum = checksum
  decoded : ∀ checksum content, catalogue.index.get? checksum = some content →
    content.id < catalogue.decoded

/-- An offer of a payload that is decoded now, and the content that it becomes. -/
structure Adds (catalogue : Catalogue) (offer : Offer) (content : Content) : Prop where
  lost : catalogue.index.get? offer.checksum = none
  own : content.checksum = offer.checksum
  id : content.id = catalogue.decoded
  decoded : offer.decoded = .ok ⟨content.value, content.positions⟩

variable {catalogue : Catalogue} {offer other : Offer} {content : Content}

theorem Adds.resolve (adds : catalogue.Adds offer content) :
    catalogue.resolve offer.checksum offer.decoded = some content := by
  have same : (⟨catalogue.decoded, offer.checksum, content.value, content.positions⟩ : Content) =
      content := by
    rw [← adds.id, ← adds.own]
  rw [Catalogue.resolve, adds.lost, adds.decoded]
  exact congrArg some same

theorem Adds.after (adds : catalogue.Adds offer content) : catalogue.after (some offer) =
    ⟨catalogue.index.insert content.checksum content, catalogue.decoded + 1⟩ := by
  have absent : ¬ catalogue.index.contains content.checksum = true := by
    rw [Table.contains, adds.own, adds.lost]
    simp
  rw [Catalogue.after, answer, Option.bind_some, adds.resolve, file, if_neg absent]

/-- An offer that is not decoded now leaves the catalogue: there is none, or its checksum is
indexed, or its payload does not decode. -/
theorem after_cases (sound : catalogue.Sound) (offer : Option Offer) :
    catalogue.after offer = catalogue ∨
      ∃ given content, offer = some given ∧ catalogue.Adds given content := by
  cases offer with
  | none => exact .inl rfl
  | some given =>
    cases found : catalogue.index.get? given.checksum with
    | some content =>
      have indexed : catalogue.index.contains content.checksum = true := by
        rw [sound.labelled _ _ found, Table.contains, found]
        rfl
      left
      rw [after, answer, Option.bind_some, resolve, found, file, if_pos indexed]
    | none =>
      cases decoded : given.decoded with
      | error cause =>
        left
        rw [after, answer, Option.bind_some, resolve, found, decoded]
        rfl
      | ok good =>
        exact .inr ⟨given, ⟨catalogue.decoded, given.checksum, good.value, good.positions⟩, rfl,
          found, rfl, rfl, decoded⟩

theorem Adds.moved (adds : catalogue.Adds offer content) :
    catalogue.after (some offer) ≠ catalogue := by
  intro same
  rw [adds.after] at same
  exact Nat.succ_ne_self _ (congrArg Catalogue.decoded same)

/-- An offer that is not decoded comes to the same after another one that is. -/
theorem answer_after_adds (adds : catalogue.Adds offer content) {settled : Option Offer}
    (kept : catalogue.after settled = catalogue)
    (agree : ∀ given ∈ settled, given.checksum = offer.checksum → given.decoded = offer.decoded) :
    (catalogue.after (some offer)).answer settled = catalogue.answer settled := by
  cases settled with
  | none => rfl
  | some given =>
    rw [adds.after, answer, answer, Option.bind_some, Option.bind_some, resolve, resolve,
      Table.get?_insert]
    by_cases same : given.checksum = content.checksum
    · -- The payload would be decoded, just as the other one under the same checksum.
      have own := same.trans adds.own
      have added : catalogue.Adds given content :=
        ⟨own ▸ adds.lost, same.symm, adds.id, (agree given rfl own).trans adds.decoded⟩
      exact absurd kept added.moved
    · rw [if_neg same]
      cases lost : catalogue.index.get? given.checksum with
      | some held => rfl
      | none =>
        cases decoded : given.decoded with
        | error cause => rfl
        | ok good =>
          have added : catalogue.Adds given
              ⟨catalogue.decoded, given.checksum, good.value, good.positions⟩ :=
            ⟨lost, rfl, rfl, decoded⟩
          exact absurd kept added.moved

/-- A content after one more was decoded. -/
def later (content : Content) : Content := { content with id := content.id + 1 }

/-- An offer that is decoded now is decoded after another one, under another checksum, too. -/
theorem Adds.after_other {next : Content} (first : catalogue.Adds offer content)
    (second : catalogue.Adds other next) (differ : other.checksum ≠ offer.checksum) :
    (catalogue.after (some offer)).Adds other (later next) := by
  rw [first.after]
  refine ⟨?_, second.own, congrArg (· + 1) second.id, second.decoded⟩
  rw [Table.get?_insert, first.own, if_neg differ]
  exact second.lost

/-- The same offer again gives what it was decoded to. -/
theorem Adds.again (adds : catalogue.Adds offer content) :
    (catalogue.after (some offer)).answer (some offer) = some content := by
  rw [adds.after, answer, Option.bind_some, Catalogue.resolve, Table.get?_insert,
    if_pos adds.own.symm]

/-- An offer that is not decoded leaves the catalogue after another one, too. -/
theorem after_after_adds (adds : catalogue.Adds offer content) {settled : Option Offer}
    (kept : catalogue.after settled = catalogue)
    (agree : ∀ given ∈ settled, given.checksum = offer.checksum → given.decoded = offer.decoded) :
    (catalogue.after (some offer)).after settled = catalogue.after (some offer) := by
  rw [after, answer_after_adds adds kept agree]
  rw [after] at kept
  cases given : catalogue.answer settled with
  | none => rfl
  | some held =>
    rw [given, file] at kept
    split at kept
    · next indexed =>
      rw [Table.contains] at indexed
      have still : (catalogue.after (some offer)).index.contains held.checksum = true := by
        rw [adds.after, Table.contains, Table.get?_insert]
        split
        · rfl
        · exact indexed
      rw [file, if_pos still]
    · exact absurd (congrArg Catalogue.decoded kept) (Nat.succ_ne_self _)

/-- What two offers come to in either order, up to the ids of contents. -/
structure Exchanges (names : Nat → Nat) (catalogue : Catalogue) (first second : Option Offer) :
    Prop where
  former : catalogue.answer first =
    ((catalogue.after second).answer first).map (Content.rename ⟨names, id⟩)
  latter : (catalogue.after first).answer second =
    (catalogue.answer second).map (Content.rename ⟨names, id⟩)
  index : ∀ checksum, ((catalogue.after first).after second).index.get? checksum =
    (((catalogue.after second).after first).index.get? checksum).map (Content.rename ⟨names, id⟩)
  decoded : ((catalogue.after first).after second).decoded =
    ((catalogue.after second).after first).decoded

private theorem exchanges_of_equal {first second : Option Offer}
    (former : catalogue.answer first = (catalogue.after second).answer first)
    (latter : (catalogue.after first).answer second = catalogue.answer second)
    (both : (catalogue.after first).after second = (catalogue.after second).after first) :
    Exchanges id catalogue first second := by
  have same (content? : Option Content) :
      content?.map (Content.rename ⟨id, id⟩) = content? := by
    cases content? <;> rfl
  exact ⟨former.trans (same _).symm, latter.trans (same _).symm,
    fun checksum => by rw [both, same], congrArg Catalogue.decoded both⟩

/-- Two contents that are decoded in either order change their ids. -/
private theorem exchanges_of_adds (sound : catalogue.Sound) {next : Content}
    (first : catalogue.Adds offer content) (second : catalogue.Adds other next)
    (differ : other.checksum ≠ offer.checksum) :
    Exchanges (Equiv.swap catalogue.decoded (catalogue.decoded + 1)) catalogue (some offer)
      (some other) := by
  have firstLater := second.after_other first (Ne.symm differ)
  have secondLater := first.after_other second differ
  have down : (later content).rename
      ⟨Equiv.swap catalogue.decoded (catalogue.decoded + 1), id⟩ = content := by
    have moved : Equiv.swap catalogue.decoded (catalogue.decoded + 1) (content.id + 1) =
        content.id := by
      rw [first.id]
      exact Equiv.swap_apply_right ..
    exact congrArg (fun id => { content with id }) moved
  have up : next.rename ⟨Equiv.swap catalogue.decoded (catalogue.decoded + 1), id⟩ =
      later next := by
    have moved : Equiv.swap catalogue.decoded (catalogue.decoded + 1) next.id = next.id + 1 := by
      rw [second.id]
      exact Equiv.swap_apply_left ..
    exact congrArg (fun id => { next with id }) moved
  constructor
  · rw [answer, Option.bind_some, first.resolve, answer, Option.bind_some, firstLater.resolve,
      Option.map_some, down]
  · rw [answer, Option.bind_some, secondLater.resolve, answer, Option.bind_some, second.resolve,
      Option.map_some, up]
  · intro checksum
    rw [secondLater.after, first.after, firstLater.after, second.after]
    simp only [Table.get?_insert]
    have apart : next.checksum ≠ content.checksum := by
      rw [first.own, second.own]
      exact differ
    have laterOwn (content : Content) : (later content).checksum = content.checksum := rfl
    rw [laterOwn, laterOwn]
    by_cases here : checksum = next.checksum
    · rw [if_pos here, if_neg (fun there => apart (here.symm.trans there)), if_pos here,
        Option.map_some, up]
    · by_cases there : checksum = content.checksum
      · rw [if_neg here, if_pos there, if_pos there, Option.map_some, down]
      · rw [if_neg here, if_neg there, if_neg there, if_neg here]
        cases found : catalogue.index.get? checksum with
        | none => rfl
        | some held =>
          have old := sound.decoded checksum held found
          have kept : Equiv.swap catalogue.decoded (catalogue.decoded + 1) held.id = held.id :=
            Equiv.swap_apply_of_ne_of_ne (Nat.ne_of_lt old) (by omega)
          exact congrArg (fun id => some { held with id }) kept.symm
  · rw [secondLater.after, first.after, firstLater.after, second.after]

/-- Two offers may change places. If both are decoded, under different checksums, their contents
change their ids. -/
theorem exchange (sound : catalogue.Sound) {first second : Option Offer}
    (agree : ∀ left ∈ first, ∀ right ∈ second, left.checksum = right.checksum →
      left.decoded = right.decoded) :
    ∃ names : Nat → Nat, Function.Injective names ∧
      (∀ id < catalogue.decoded, names id = id) ∧ Exchanges names catalogue first second := by
  rcases after_cases sound first with firstKept | ⟨left, content, rfl, leftAdds⟩
  · refine ⟨id, Function.injective_id, fun _ _ => rfl, ?_⟩
    rcases after_cases sound second with secondKept | ⟨right, next, rfl, rightAdds⟩
    · exact exchanges_of_equal (by rw [secondKept]) (by rw [firstKept])
        (by rw [firstKept, secondKept, firstKept])
    · have agreed : ∀ given ∈ first, given.checksum = right.checksum →
          given.decoded = right.decoded := fun given member => agree given member right rfl
      exact exchanges_of_equal (answer_after_adds rightAdds firstKept agreed).symm
        (by rw [firstKept]) (by rw [firstKept, after_after_adds rightAdds firstKept agreed])
  · rcases after_cases sound second with secondKept | ⟨right, next, rfl, rightAdds⟩
    · have agreed : ∀ given ∈ second, given.checksum = left.checksum →
          given.decoded = left.decoded :=
        fun given member same => (agree left rfl given member same.symm).symm
      exact ⟨id, Function.injective_id, fun _ _ => rfl, exchanges_of_equal (by rw [secondKept])
        (answer_after_adds leftAdds secondKept agreed)
        (by rw [secondKept, after_after_adds leftAdds secondKept agreed])⟩
    · by_cases same : right.checksum = left.checksum
      · -- Both offer the same payload, and whichever comes first is decoded.
        obtain ⟨checksum, decoded⟩ := left
        obtain ⟨other, decodedToo⟩ := right
        cases same
        cases agree _ rfl _ rfl rfl
        have once : catalogue.answer (some ⟨checksum, decoded⟩) = some content := leftAdds.resolve
        have again := leftAdds.again
        exact ⟨id, Function.injective_id, fun _ _ => rfl,
          exchanges_of_equal (once.trans again.symm) (again.trans once.symm) rfl⟩
      · refine ⟨_, Equiv.injective _, fun id old => ?_,
          exchanges_of_adds sound leftAdds rightAdds same⟩
        exact Equiv.swap_apply_of_ne_of_ne (Nat.ne_of_lt old) (by omega)

end Catalogue

/-! ## Two replies one after the other -/

namespace Client

/-- The payload that a good reply offers. -/
def offer? (client : Client) (reply : WatchResponse) : Option Offer :=
  if ReplyStatus.ofWatchCode reply.status = .ok then
    some ⟨reply.checksum, client.decodePayload reply.nodes⟩
  else none

theorem content?_eq_answer (client : Client) (reply : WatchResponse) :
    client.content? reply = client.cache.catalogue.answer (client.offer? reply) := by
  unfold content? offer?
  split
  · exact client.resolved?_eq_catalogue reply.checksum reply.nodes
  · rfl

theorem offer?_of_settings {client after : Client} (same : after.settings = client.settings)
    (reply : WatchResponse) : after.offer? reply = client.offer? reply := by
  simp only [offer?, decodePayload, same]

/-- If good replies with one checksum have one payload, their offers agree. -/
theorem offers_agree (client : Client) {left right : WatchResponse}
    (payload : ReplyStatus.ofWatchCode left.status = .ok →
      ReplyStatus.ofWatchCode right.status = .ok → left.checksum = right.checksum →
      left.nodes = right.nodes) {given offered : Offer}
    (member : given ∈ client.offer? left) (memberToo : offered ∈ client.offer? right)
    (same : given.checksum = offered.checksum) : given.decoded = offered.decoded := by
  simp only [offer?, Option.mem_ite_none_right, Option.mem_some_iff] at member memberToo
  obtain ⟨good, rfl⟩ := member
  obtain ⟨goodToo, rfl⟩ := memberToo
  exact congrArg client.decodePayload (payload good goodToo same)

private theorem performAll_notes (client : Client) (notes : List Note) :
    client.performAll (notes.map Section.note) =
      { client with journal := client.journal ++ notes } := by
  induction notes generalizing client with
  | nil =>
    rw [List.append_nil]
    rfl
  | cons first rest ih =>
    have later := ih (client.note first.label first.registration first.observation)
    rw [List.map_cons, performAll, List.foldl_cons]
    refine later.trans ?_
    simp only [note, List.append_assoc, List.singleton_append]

end Client

section

variable {start client : Client} {history : List Occurrence} {reply first second : WatchResponse}
  {space other : NamespaceKey} {key document : DocumentKey} {record held : Record}

/-- Handling a reply is a part of a run. -/
theorem Run.handled (fresh : start.Fresh) (run : Run start history client)
    (listens : client.Listens reply.uid space key record) :
    client.Handles reply space key record (client.handleReply reply) ∧
      ∃ later, Run start later (client.handleReply reply) := by
  have indexed := run.indexed fresh
  have seated := run.seated fresh
  refine ⟨Client.handles indexed (run.labelled fresh) seated listens, ?_⟩
  rw [Client.handleReply_eq indexed seated listens, ← Client.performAll_notes]
  exact ⟨_, (run.step (.reply reply)).performAll _⟩

/-- A reply for one subscription leaves the listeners of another where they are. -/
theorem Client.Handles.listens {after : Client}
    (handles : client.Handles first space key record after)
    (listens : client.Listens second.uid other document held)
    (apart : ¬ (other = space ∧ document = key)) :
    ∃ still, after.Listens second.uid other document still ∧ still.atRest = held.atRest := by
  obtain ⟨index, found⟩ := Cache.located?_eq_some_iff.mp listens.located
  have rest := handles.records other document
  rw [if_neg apart, Cache.restAt?_eq_some found] at rest
  obtain ⟨still, there, same⟩ := Cache.exists_recordAt? rest
  refine ⟨still, ⟨?_, ?_⟩, same⟩
  · exact Cache.located?_eq_some_iff.mpr ⟨handles.subscriptions ▸ index, there⟩
  · have watchers : still.atRest.watchers = held.atRest.watchers := congrArg Record.watchers same
    intro watcher sits
    exact listens.silent watcher (watchers ▸ sits)

/-- What two replies for different subscriptions do, the one after the other. -/
structure Client.HandlesBoth (client : Client) (first second : WatchResponse)
    (space other : NamespaceKey) (key document : DocumentKey) (record held : Record)
    (after : Client) : Prop where
  settings : after.settings = client.settings
  closed : after.closed = client.closed
  streamWorker : after.streamWorker = client.streamWorker
  sweepWorker : after.sweepWorker = client.sweepWorker
  registrations : after.registrations = client.registrations
  records : ∀ place name, after.cache.restAt? place name =
    if place = space ∧ name = key then
      some (first.judge (client.cache.catalogue.answer (client.offer? first)) record.atRest).2
    else if place = other ∧ name = document then
      some (second.judge ((client.cache.catalogue.after (client.offer? first)).answer
        (client.offer? second)) held.atRest).2
    else client.cache.restAt? place name
  subscriptions : after.cache.bySubscription = client.cache.bySubscription
  next : after.cache.nextSubscription = client.cache.nextSubscription
  generation : after.cache.generation = client.cache.generation
  namespaces : ∀ place, after.cache.namespaces.contains place =
    client.cache.namespaces.contains place
  catalogue : after.cache.catalogue =
    (client.cache.catalogue.after (client.offer? first)).after (client.offer? second)
  versions : ∀ place number name, after.cache.contentAt? place number name =
    (second.enters ((client.cache.catalogue.after (client.offer? first)).answer
        (client.offer? second)) other document place number name).or
      ((first.enters (client.cache.catalogue.answer (client.offer? first)) space key place number
        name).or (client.cache.contentAt? place number name))
  queue : after.queue = { client.queue with
    commands := client.queue.commands ++
      ((first.resubscribes client.cache.generation space key).toList ++
        (second.resubscribes client.cache.generation other document).toList) }
  heard : ∀ registration, heard after registration = heard client registration ++
    (eventsFor registration
        (first.judge (client.cache.catalogue.answer (client.offer? first)) record.atRest).1 ++
      eventsFor registration
        (second.judge ((client.cache.catalogue.after (client.offer? first)).answer
          (client.offer? second)) held.atRest).1)

theorem Run.handledBoth (fresh : start.Fresh) (run : Run start history client)
    (listens : client.Listens first.uid space key record)
    (listensToo : client.Listens second.uid other document held)
    (apart : ¬ (other = space ∧ document = key)) :
    client.HandlesBoth first second space other key document record held
      ((client.handleReply first).handleReply second) := by
  obtain ⟨former, _, reached⟩ := run.handled fresh listens
  obtain ⟨still, listensStill, same⟩ := former.listens listensToo apart
  have latter := (reached.handled fresh listensStill).1
  have firstContent := client.content?_eq_answer first
  have secondContent : (client.handleReply first).content? second =
      (client.cache.catalogue.after (client.offer? first)).answer (client.offer? second) := by
    rw [Client.content?_eq_answer, former.catalogue, Client.offer?_of_settings former.settings,
      firstContent, ← Catalogue.after]
  constructor
  case settings => exact latter.settings.trans former.settings
  case closed => exact latter.closed.trans former.closed
  case streamWorker => exact latter.streamWorker.trans former.streamWorker
  case sweepWorker => exact latter.sweepWorker.trans former.sweepWorker
  case registrations => exact latter.registrations.trans former.registrations
  case records =>
    intro place name
    rw [latter.records, former.records, same, firstContent, secondContent]
    by_cases here : place = space ∧ name = key
    · rw [if_pos here, if_pos here, if_neg]
      rintro ⟨rfl, rfl⟩
      exact apart here
    · rw [if_neg here, if_neg here]
  case subscriptions => exact latter.subscriptions.trans former.subscriptions
  case next => exact latter.next.trans former.next
  case generation => exact latter.generation.trans former.generation
  case namespaces => exact fun place => (latter.namespaces place).trans (former.namespaces place)
  case catalogue =>
    rw [latter.catalogue, secondContent, former.catalogue, firstContent]
    rfl
  case versions =>
    intro place number name
    rw [latter.versions, former.versions, firstContent, secondContent]
  case queue => rw [latter.queue, former.queue, former.generation, List.append_assoc]
  case heard =>
    intro registration
    rw [latter.heard, former.heard, same, firstContent, secondContent, List.append_assoc]

end

/-! ## Either order -/

/-- What a reply makes of a record does not depend on the ids of contents. -/
theorem WatchResponse.judge_rename (reply : WatchResponse) (names : Renaming)
    (content? : Option Content) (record : Record) :
    reply.judge (content?.map (Content.rename names)) (record.rename names) =
      ((reply.judge content? record).1.map (Notification.rename names),
        (reply.judge content? record).2.rename names) := by
  unfold judge
  split
  · rfl
  · cases content? with
    | none => exact record.updateStatus_rename names .error
    | some content => exact record.update_rename names _ content
  · exact record.updateStatus_rename names _

theorem WatchResponse.enters_map (reply : WatchResponse) (change : Content → Content)
    (content? : Option Content) (space other : NamespaceKey) (key document : DocumentKey)
    (number : Version) :
    (reply.enters content? space key other number document).map change =
      reply.enters (content?.map change) space key other number document := by
  unfold enters
  split <;> rfl

/-- Replies for different documents enter nothing in the same place. -/
theorem WatchResponse.enters_or {first second : WatchResponse} {space other : NamespaceKey}
    {key document : DocumentKey} (apart : ¬ (other = space ∧ document = key))
    (content? contentToo? : Option Content) (place : NamespaceKey) (number : Version)
    (name : DocumentKey) :
    (second.enters contentToo? other document place number name).or
        (first.enters content? space key place number name) =
      (first.enters content? space key place number name).or
        (second.enters contentToo? other document place number name) := by
  by_cases here : place = space ∧ name = key
  · have elsewhere : second.enters contentToo? other document place number name = none := by
      refine if_neg ?_
      rintro ⟨rfl, _, rfl⟩
      exact apart here
    rw [elsewhere, Option.none_or, Option.or_none]
  · have elsewhere : first.enters content? space key place number name = none := by
      refine if_neg ?_
      rintro ⟨rfl, _, rfl⟩
      exact here ⟨rfl, rfl⟩
    rw [elsewhere, Option.none_or, Option.or_none]

theorem eventsFor_rename (names : Nat → Nat) (registration : Nat)
    (notifications : List Notification) :
    eventsFor registration (notifications.map (Notification.rename ⟨names, id⟩)) =
      (eventsFor registration notifications).map (Event.rename ⟨names, id⟩) := by
  simp only [eventsFor, List.filter_map, List.map_map]
  rfl

/-- Two clients that came from one, and are alike but for the times of touches, the order of what
was queued for different subscriptions, and the ids of contents. -/
structure Client.Alike (names : Nat → Nat) (origin left right : Client) : Prop where
  settings : left.settings = right.settings
  closed : left.closed = right.closed
  streamWorker : left.streamWorker = right.streamWorker
  sweepWorker : left.sweepWorker = right.sweepWorker
  registrations : left.registrations = right.registrations
  records : ∀ space key, left.cache.restAt? space key =
    (right.cache.restAt? space key).map (Record.rename ⟨names, id⟩)
  subscriptions : left.cache.bySubscription = right.cache.bySubscription
  next : left.cache.nextSubscription = right.cache.nextSubscription
  generation : left.cache.generation = right.cache.generation
  namespaces : ∀ space,
    left.cache.namespaces.contains space = right.cache.namespaces.contains space
  versions : ∀ space version key, left.cache.contentAt? space version key =
    (right.cache.contentAt? space version key).map (Content.rename ⟨names, id⟩)
  checksums : ∀ checksum, left.cache.byChecksum.get? checksum =
    (right.cache.byChecksum.get? checksum).map (Content.rename ⟨names, id⟩)
  decoded : left.cache.touches.size = right.cache.touches.size
  heard : ∀ registration, ∃ news,
    heard right registration = heard origin registration ++ news ∧
    heard left registration = heard origin registration ++ news.map (Event.rename ⟨names, id⟩)
  commands : ∀ subscription, ∃ pushed,
    left.queue.commands.filter (fun stamped => stamped.command.subscription == subscription) =
      origin.queue.commands.filter (fun stamped => stamped.command.subscription == subscription) ++
        pushed ∧
    right.queue.commands.filter (fun stamped => stamped.command.subscription == subscription) =
      origin.queue.commands.filter (fun stamped => stamped.command.subscription == subscription) ++
        pushed
  queue : { left.queue with commands := [] } = { right.queue with commands := [] }

theorem WatchResponse.judge_answered (reply : WatchResponse) (content? : Option Content)
    (record : Record) :
    Record.Answered record (reply.judge content? record).2 (reply.judge content? record).1 := by
  unfold judge
  split
  · exact ⟨rfl, rfl, rfl, rfl, rfl, by simp [Record.news]⟩
  · cases content? with
    | none => exact record.updateStatus_answered .error
    | some content => exact record.update_answered _ content
  · exact record.updateStatus_answered _

/-- A reply tells the watchers of the record that it is judged by, and no others. -/
theorem WatchResponse.sits_of_judge (reply : WatchResponse) {content? : Option Content}
    {record : Record} {registration : Nat}
    (told : eventsFor registration (reply.judge content? record).1 ≠ []) :
    ∃ id watcher, record.watchers.get? id = some watcher ∧ watcher.registration = registration := by
  obtain ⟨event, member⟩ := List.exists_mem_of_ne_nil _ told
  obtain ⟨notification, kept, _⟩ := List.mem_map.mp member
  obtain ⟨due, own⟩ := List.mem_filter.mp kept
  rcases (reply.judge_answered content? record).told_cases with none | ⟨event, _, all⟩
  · rw [none] at due
    cases due
  · rw [all] at due
    obtain ⟨watcher, sitter, rfl⟩ := List.mem_map.mp due
    obtain ⟨id, sits⟩ := Table.mem_values_iff.mp sitter
    exact ⟨id, watcher, sits, of_decide_eq_true own⟩

/-- Of two replies for different records, one at most tells a registration. -/
theorem Cache.Seated.apart {cache : Cache} {registrations : Nat}
    (seated : cache.Seated registrations) {space other : NamespaceKey} {key document : DocumentKey}
    {record held : Record} (found : cache.recordAt? space key = some record)
    (there : cache.recordAt? other document = some held)
    (apart : ¬ (other = space ∧ document = key)) {first second : WatchResponse}
    (content? contentToo? : Option Content) (registration : Nat) :
    eventsFor registration (first.judge content? record.atRest).1 = [] ∨
      eventsFor registration (second.judge contentToo? held.atRest).1 = [] := by
  by_contra both
  rw [not_or] at both
  obtain ⟨id, watcher, seat, own⟩ := first.sits_of_judge both.1
  obtain ⟨number, sitter, seatToo, ownToo⟩ := second.sits_of_judge both.2
  obtain ⟨sameSpace, sameKey, _⟩ := seated.unique _ _ _ _ _ _ _ _ (Seat.of_record found seat)
    (Seat.of_record there seatToo) (own.trans ownToo.symm)
  exact apart ⟨sameSpace.symm, sameKey.symm⟩

/-- The ids of all contents that a cache holds were given out. -/
theorem Cache.Recounts.atRest_rename {cache : Cache} {history : List Occurrence}
    (recounts : cache.Recounts history) {names : Nat → Nat}
    (old : ∀ id < cache.touches.size, names id = id) {space : NamespaceKey} {key : DocumentKey}
    {record : Record} (found : cache.recordAt? space key = some record) :
    record.atRest.rename ⟨names, id⟩ = record.atRest :=
  Record.rename_same (fun _ held latest => old _ (recounts.decoded held (.latest found latest)))

theorem Cache.Recounts.restAt?_rename {cache : Cache} {history : List Occurrence}
    (recounts : cache.Recounts history) {names : Nat → Nat}
    (old : ∀ id < cache.touches.size, names id = id) (space : NamespaceKey) (key : DocumentKey) :
    (cache.restAt? space key).map (Record.rename ⟨names, id⟩) = cache.restAt? space key := by
  cases found : cache.restAt? space key with
  | none => rfl
  | some rest =>
    obtain ⟨record, there, rfl⟩ := exists_recordAt? found
    exact congrArg some (recounts.atRest_rename old there)

theorem Cache.Recounts.contentAt?_rename {cache : Cache} {history : List Occurrence}
    (recounts : cache.Recounts history) {names : Nat → Nat}
    (old : ∀ id < cache.touches.size, names id = id) (space : NamespaceKey) (version : Version)
    (key : DocumentKey) :
    (cache.contentAt? space version key).map (Content.rename ⟨names, id⟩) =
      cache.contentAt? space version key := by
  cases found : cache.contentAt? space version key with
  | none => rfl
  | some content =>
    exact congrArg (fun id => some { content with id })
      (old _ (recounts.decoded content (.entered found)))

/-- The order of the commands for different subscriptions does not show for any one of them. -/
private theorem filter_resubscribes {left right : WatchResponse} (apart : left.uid ≠ right.uid)
    (generation : Nat) (space other : NamespaceKey) (key document : DocumentKey)
    (subscription : UInt32) :
    ((right.resubscribes generation other document).toList ++
        (left.resubscribes generation space key).toList).filter
          (fun stamped => stamped.command.subscription == subscription) =
      ((left.resubscribes generation space key).toList ++
        (right.resubscribes generation other document).toList).filter
          (fun stamped => stamped.command.subscription == subscription) := by
  unfold WatchResponse.resubscribes
  split
  · split
    · by_cases own : left.uid = subscription
      · have differs : right.uid ≠ subscription := fun same => apart (own.trans same.symm)
        simp [Command.subscription, own, differs]
      · by_cases other : right.uid = subscription <;> simp [Command.subscription, own, other]
    · simp
  · split <;> simp

/-- Replies for different subscriptions may be handled in either order. If both carry good payloads
under one checksum, these are the same, and no watcher of theirs makes calls. Then both orders leave
the same records, indexes and versions, but for times of touches and for ids of contents that were
decoded just now; every registration hears the same; and for each subscription the same commands
were queued in the same order. -/
theorem replies_commute {start client : Client} {history : List Occurrence}
    (fresh : start.Fresh) (run : Run start history client) {left right : WatchResponse}
    {space other : NamespaceKey} {key document : DocumentKey} {record held : Record}
    (apart : left.uid ≠ right.uid) (listens : client.Listens left.uid space key record)
    (listensToo : client.Listens right.uid other document held)
    (payload : ReplyStatus.ofWatchCode left.status = .ok →
      ReplyStatus.ofWatchCode right.status = .ok → left.checksum = right.checksum →
      left.nodes = right.nodes) :
    ∃ names : Nat → Nat, Function.Injective names ∧
      (∀ id < client.cache.touches.size, names id = id) ∧
      Client.Alike names client ((client.handleReply left).handleReply right)
        ((client.handleReply right).handleReply left) := by
  have indexed := run.indexed fresh
  have recounts := run.recounts fresh
  obtain ⟨index, found⟩ := Cache.located?_eq_some_iff.mp listens.located
  obtain ⟨indexToo, foundToo⟩ := Cache.located?_eq_some_iff.mp listensToo.located
  have places : ¬ (other = space ∧ document = key) := by
    rintro ⟨rfl, rfl⟩
    exact apart (indexed.unique index indexToo)
  have sound : client.cache.catalogue.Sound :=
    ⟨(run.labelled fresh).checksums, fun _ content here => recounts.decoded content (.indexed here)⟩
  have agree : ∀ given ∈ client.offer? left, ∀ offered ∈ client.offer? right,
      given.checksum = offered.checksum → given.decoded = offered.decoded :=
    fun given member offered memberToo same => client.offers_agree payload member memberToo same
  obtain ⟨names, injective, old, swaps⟩ := Catalogue.exchange sound agree
  have leftFirst := run.handledBoth fresh listens listensToo places
  have rightFirst := run.handledBoth fresh listensToo listens
    (fun same => places ⟨same.1.symm, same.2.symm⟩)
  have decidedLeft := left.judge_rename ⟨names, id⟩
    ((client.cache.catalogue.after (client.offer? right)).answer (client.offer? left)) record.atRest
  rw [← swaps.former, recounts.atRest_rename old found] at decidedLeft
  have decidedRight := right.judge_rename ⟨names, id⟩
    (client.cache.catalogue.answer (client.offer? right)) held.atRest
  rw [← swaps.latter, recounts.atRest_rename old foundToo] at decidedRight
  refine ⟨names, injective, old, ?_⟩
  constructor
  case settings => exact leftFirst.settings.trans rightFirst.settings.symm
  case closed => exact leftFirst.closed.trans rightFirst.closed.symm
  case streamWorker => exact leftFirst.streamWorker.trans rightFirst.streamWorker.symm
  case sweepWorker => exact leftFirst.sweepWorker.trans rightFirst.sweepWorker.symm
  case registrations => exact leftFirst.registrations.trans rightFirst.registrations.symm
  case records =>
    intro place name
    rw [leftFirst.records, rightFirst.records, decidedLeft, decidedRight]
    by_cases here : place = space ∧ name = key
    · have elsewhere : ¬ (place = other ∧ name = document) := by
        rintro ⟨rfl, rfl⟩
        exact places here
      rw [if_pos here, if_neg elsewhere, if_pos here, Option.map_some]
    · by_cases there : place = other ∧ name = document
      · rw [if_neg here, if_pos there, if_pos there, Option.map_some]
      · rw [if_neg here, if_neg there, if_neg there, if_neg here, recounts.restAt?_rename old]
  case subscriptions => exact leftFirst.subscriptions.trans rightFirst.subscriptions.symm
  case next => exact leftFirst.next.trans rightFirst.next.symm
  case generation => exact leftFirst.generation.trans rightFirst.generation.symm
  case namespaces =>
    exact fun place => (leftFirst.namespaces place).trans (rightFirst.namespaces place).symm
  case versions =>
    intro place number name
    rw [leftFirst.versions, rightFirst.versions, Option.map_or, Option.map_or,
      WatchResponse.enters_map, WatchResponse.enters_map, ← swaps.former, ← swaps.latter,
      recounts.contentAt?_rename old, ← Option.or_assoc, ← Option.or_assoc]
    exact congrArg (Option.or · _) (WatchResponse.enters_or places ..)
  case checksums =>
    intro checksum
    have leftIndex := congrArg (fun catalogue => catalogue.index.get? checksum) leftFirst.catalogue
    have rightIndex := congrArg (fun catalogue => catalogue.index.get? checksum) rightFirst.catalogue
    exact (leftIndex.trans (swaps.index checksum)).trans (congrArg _ rightIndex.symm)
  case decoded =>
    exact ((congrArg Catalogue.decoded leftFirst.catalogue).trans swaps.decoded).trans
      (congrArg Catalogue.decoded rightFirst.catalogue).symm
  case heard =>
    intro registration
    refine ⟨_, rightFirst.heard registration, ?_⟩
    rw [leftFirst.heard, decidedLeft, decidedRight, eventsFor_rename, eventsFor_rename,
      ← List.map_append]
    rcases (run.seated fresh).apart found foundToo places _ _ registration with none | none <;>
      rw [none, List.append_nil, List.nil_append]
  case commands =>
    intro subscription
    refine ⟨_, by rw [leftFirst.queue, List.filter_append], ?_⟩
    rw [rightFirst.queue, List.filter_append, filter_resubscribes apart]
  case queue => rw [leftFirst.queue, rightFirst.queue]

/-- Two documents are watched, each by one watcher. -/
private def listeningTwo : List Section :=
  [.watch { root := "/srv" } { document := "a" } (some ("A", .idle)),
    .watch { root := "/srv" } { document := "b" } (some ("B", .idle))]

private theorem listens_listeningTwo :
    ∃ record held,
      (Client.byDefault.performAll listeningTwo).Listens 0 { root := "/srv" } { document := "a" }
        record ∧
      (Client.byDefault.performAll listeningTwo).Listens 1 { root := "/srv" } { document := "b" }
        held :=
  ⟨_, _, ⟨rfl, by decide +kernel⟩, ⟨rfl, by decide +kernel⟩⟩

/-- The server sends a number for each document. The one that comes first has the lower id. -/
theorem replies_commute_decoding :
    let first : WatchResponse := { checksum := [1], nodes := [{ valueType := 4, int := 1 }] }
    let second : WatchResponse :=
      { uid := 1, checksum := [2], nodes := [{ valueType := 4, int := 2 }] }
    let client := Client.byDefault.performAll listeningTwo
    ((client.handleReply first).handleReply second).cache.byChecksum.get? [1] ≠
      ((client.handleReply second).handleReply first).cache.byChecksum.get? [1] ∧
    ∃ names : Nat → Nat, Function.Injective names ∧
      Client.Alike names client ((client.handleReply first).handleReply second)
        ((client.handleReply second).handleReply first) := by
  intro first second client
  obtain ⟨record, held, listens, listensToo⟩ := listens_listeningTwo
  have differ : first.uid ≠ second.uid := by decide
  obtain ⟨names, injective, _, alike⟩ := replies_commute Client.byDefault_fresh
    (Run.start.performAll listeningTwo) differ listens listensToo (fun _ _ same => by cases same)
  refine ⟨fun same => ?_, names, injective, alike⟩
  have ids := congrArg (Option.map Content.id) same
  exact absurd ids (by decide +kernel)

end ConfigWatch
