import ConfigWatch.Proofs.Client.Resolutions
import ConfigWatch.Proofs.Client.Replays
import Mathlib.Data.List.Induction
import Mathlib.Data.List.MinMax

/-!
# Replies in any order

Good replies for a document that holds nothing may come in any order, and more than once: of those
of one namespace id the latest version is held in the end, with the content that the index has
under its checksum. Watchers that are told in between may call the client in turn.
-/

set_option autoImplicit false

namespace ConfigWatch

/-! ## Handling replies is a run -/

/-- Whether a section may be a part of handling a reply. -/
def Section.isHandling : Section → Bool
  | .reply _ => true
  | act => act.isReaction

theorem Section.isHandling_of_isReaction {act : Section} (reaction : act.isReaction = true) :
    act.isHandling = true := by
  cases act <;> first | rfl | cases reaction

namespace Client

/-- Handles replies one after the other. -/
def handleAll (client : Client) (replies : List WatchResponse) : Client :=
  replies.foldl handleReply client

theorem handleAll_snoc (client : Client) (replies : List WatchResponse) (reply : WatchResponse) :
    client.handleAll (replies ++ [reply]) = (client.handleAll replies).handleReply reply := by
  rw [handleAll, List.foldl_append]
  rfl

theorem performAll_append (client : Client) (left right : List Section) :
    client.performAll (left ++ right) = (client.performAll left).performAll right :=
  List.foldl_append

theorem performAll_snoc (client : Client) (acts : List Section) (act : Section) :
    client.performAll (acts ++ [act]) = ((client.performAll acts).perform act).2 :=
  client.performAll_append acts [act]

/-- Telling watchers comes to sections that watchers carry out. -/
theorem dispatch_performAll (client : Client) (notifications : List Notification) :
    ∃ acts, (∀ act ∈ acts, act.isReaction = true) ∧
      client.dispatch notifications = client.performAll acts := by
  have telling : Telling (fun after _ => ∃ acts : List Section,
      (∀ act ∈ acts, act.isReaction = true) ∧ after = client.performAll acts) := by
    constructor
    case tells =>
      rintro _ notification agenda ⟨acts, reactions, rfl⟩
      exact ⟨acts ++ [.note notification.toNote],
        List.forall_mem_append.mpr ⟨reactions, by simp [Section.isReaction]⟩,
        (client.performAll_snoc _ _).symm⟩
    case acts =>
      rintro _ agenda act reaction _ ⟨acts, reactions, rfl⟩
      exact ⟨acts ++ [act], List.forall_mem_append.mpr ⟨reactions, by simpa using reaction⟩,
        (client.performAll_snoc _ _).symm⟩
  exact @Telling.dispatch _ client [] telling notifications ⟨[], by simp, rfl⟩

theorem handleReply_performAll (client : Client) (reply : WatchResponse) :
    ∃ acts, (∀ act ∈ acts, act.isHandling = true) ∧
      client.handleReply reply = client.performAll acts := by
  obtain ⟨acts, reactions, told⟩ :=
    (client.applyReply reply).2.dispatch_performAll (client.applyReply reply).1
  refine ⟨.reply reply :: acts, fun act member => ?_, told⟩
  rcases List.mem_cons.mp member with rfl | later
  · rfl
  · exact Section.isHandling_of_isReaction (reactions act later)

variable {client : Client} {act : Section}

theorem perform_generation_of_handling (indexed : client.cache.Indexed)
    (handling : act.isHandling = true) :
    (client.perform act).2.cache.generation = client.cache.generation := by
  have step := client.does indexed act
  generalize client.perform act = result at step
  cases step with
  | quiet same => exact same.records.generation
  | watches effect => exact effect.generation
  | unwatches effect => exact effect.generation
  | replies _ effect => exact effect.generation
  | sweeps => rfl
  | resets which => rcases which with rfl | rfl <;> cases handling

/-- A record stays under its id while a reply is handled. -/
theorem perform_subscription_of_handling (indexed : client.cache.Indexed)
    (handling : act.isHandling = true) {space : NamespaceKey} {key : DocumentKey} {rest : Record}
    (found : client.cache.restAt? space key = some rest) :
    ∃ later, (client.perform act).2.cache.restAt? space key = some later ∧
      later.subscription = rest.subscription := by
  have step := client.does indexed act
  generalize client.perform act = result at step
  cases step with
  | quiet same => exact ⟨rest, (same.records.records space key).trans found, rfl⟩
  | watches effect =>
    rw [effect.records]
    split
    · next here =>
      obtain ⟨rfl, rfl⟩ := here
      refine ⟨_, rfl, ?_⟩
      rw [Record.subscription_joined, ← Cache.recordFor_atRest found 0]
      rfl
    · exact ⟨rest, found, rfl⟩
  | unwatches effect =>
    rw [effect.records]
    split
    · exact ⟨(rest.removeWatcher _).2, by rw [found, Option.map_some], rfl⟩
    · exact ⟨rest, found, rfl⟩
  | replies located effect =>
    rw [effect.records]
    split
    · next here =>
      obtain ⟨rfl, rfl⟩ := here
      obtain ⟨_, there⟩ := Cache.located?_eq_some_iff.mp located
      rw [Cache.restAt?_eq_some there] at found
      cases found
      exact ⟨_, rfl, (client.verdict_answered _ _).subscription⟩
    · exact ⟨rest, found, rfl⟩
  | sweeps => cases handling
  | resets which => rcases which with rfl | rfl <;> cases handling

end Client

/-- Where handling replies leads to from a client of a run: to a client of a longer run, in the same
generation, where the records that were there still are. -/
structure Leading (start : Client) (history : List Occurrence) (client : Client)
    (later : List Occurrence) (after : Client) : Prop where
  run : Run start (history ++ later) after
  opened : (ledger history client).opened <+: (ledger (history ++ later) after).opened
  records : ∀ space key rest, client.cache.restAt? space key = some rest →
    ∃ last, after.cache.restAt? space key = some last ∧ last.subscription = rest.subscription

namespace Leading

variable {start client middle after : Client} {history later last : List Occurrence}

theorem refl (run : Run start history client) : Leading start history client [] client where
  run := by rwa [List.append_nil]
  opened := by simp only [List.append_nil, List.prefix_rfl]
  records _ _ rest found := ⟨rest, found, rfl⟩

theorem trans (first : Leading start history client later middle)
    (second : Leading start (history ++ later) middle last after) :
    Leading start history client (later ++ last) after where
  run := by
    rw [← List.append_assoc]
    exact second.run
  opened := by
    rw [← List.append_assoc]
    exact first.opened.trans second.opened
  records space key rest found := by
    obtain ⟨held, there, same⟩ := first.records space key rest found
    obtain ⟨final, here, still⟩ := second.records space key held there
    exact ⟨final, here, still.trans same⟩

theorem perform (fresh : start.Fresh) (run : Run start history client) {act : Section}
    (handling : act.isHandling = true) :
    Leading start history client [⟨client, act⟩] (client.perform act).2 where
  run := run.step act
  opened := by
    have stays := Client.perform_generation_of_handling (run.indexed fresh) handling
    rw [ledger_snoc act stays]
    exact List.prefix_append _ _
  records _ _ _ found :=
    Client.perform_subscription_of_handling (run.indexed fresh) handling found

theorem performAll (fresh : start.Fresh) (run : Run start history client) {acts : List Section}
    (handling : ∀ act ∈ acts, act.isHandling = true) :
    Leading start history client (client.occurrences acts) (client.performAll acts) := by
  induction acts generalizing history client with
  | nil => exact refl run
  | cons act rest ih =>
    have first := perform fresh run (handling act List.mem_cons_self)
    exact first.trans (ih first.run (fun other member => handling other (.tail _ member)))

end Leading

/-- Every reply of a list is for the document when its turn comes. -/
def Client.AllFor (client : Client) (space : NamespaceKey) (key : DocumentKey)
    (replies : List WatchResponse) : Prop :=
  ∀ handled reply rest, replies = handled ++ reply :: rest →
    (client.handleAll handled).cache.bySubscription.get? reply.uid = some (space, key)

namespace Client

variable {client : Client} {space : NamespaceKey} {key : DocumentKey}

theorem AllFor.nil : client.AllFor space key [] := fun _ _ _ split => by simp at split

theorem AllFor.snoc_iff {replies : List WatchResponse} {reply : WatchResponse} :
    client.AllFor space key (replies ++ [reply]) ↔
      client.AllFor space key replies ∧
        (client.handleAll replies).cache.bySubscription.get? reply.uid = some (space, key) := by
  constructor
  · refine fun all => ⟨fun handled other rest split => ?_, all replies reply [] rfl⟩
    refine all handled other (rest ++ [reply]) ?_
    rw [split, List.append_assoc, List.cons_append]
  · rintro ⟨all, last⟩ handled other rest split
    rcases List.eq_nil_or_concat rest with rfl | ⟨inner, final, rfl⟩
    · obtain ⟨rfl, same⟩ := List.append_inj' split rfl
      cases same
      exact last
    · rw [List.concat_eq_append, ← List.cons_append, ← List.append_assoc] at split
      exact all handled other inner (List.append_inj' split rfl).1

end Client

/-- Replies that name the id of a record are for its document, one after the other, while ids
last. -/
theorem Run.allFor_of_few {start client : Client} {history : List Occurrence} (fresh : start.Fresh)
    (run : Run start history client) {space : NamespaceKey} {key : DocumentKey} {rest : Record}
    (found : client.cache.restAt? space key = some rest) {replies : List WatchResponse}
    (own : ∀ reply ∈ replies, reply.uid = rest.subscription) :
    ∃ later, Leading start history client later (client.handleAll replies) ∧
      ((ledger (history ++ later) (client.handleAll replies)).opened.length < 2 ^ 32 →
        client.AllFor space key replies) := by
  induction replies using List.reverseRecOn with
  | nil => exact ⟨[], .refl run, fun _ => .nil⟩
  | append_singleton replies reply ih =>
    obtain ⟨later, leading, allFor⟩ :=
      ih (fun other member => own other (List.mem_append_left _ member))
    obtain ⟨acts, handling, handled⟩ := (client.handleAll replies).handleReply_performAll reply
    have next := Leading.performAll fresh leading.run handling
    rw [← handled, ← client.handleAll_snoc] at next
    refine ⟨_, leading.trans next, fun few => Client.AllFor.snoc_iff.mpr ?_⟩
    rw [← List.append_assoc] at few
    have fewBefore := next.opened.length_le.trans_lt few
    obtain ⟨last, there, same⟩ := leading.records space key rest found
    refine ⟨allFor fewBefore, ?_⟩
    rw [own reply (by simp), ← same]
    exact (leading.run.balanced fresh fewBefore).placed space key last there

/-! ## One reply -/

theorem Record.update_of_news {record : Record} {version : Version} {content : Content}
    (alive : record.state ≠ .deactivated) (news : record.isNews version = true) :
    (record.update version content).2 =
      { record with latest := some (version, content), state := .active, status := some .ok } := by
  rw [update, if_neg alive, if_neg (by simp [news])]
  split <;> rfl

/-- The index once a content was stored: it has the content under its checksum. -/
theorem Cache.Files.get? {before after : Cache} {content : Content}
    (files : Cache.Files before after (some content)) (checksum : Bytes) :
    after.byChecksum.get? checksum =
      if checksum = content.checksum then some content else before.byChecksum.get? checksum := by
  cases files with
  | finds found same =>
    have index : after.byChecksum = before.byChecksum := congrArg Catalogue.index same
    rw [index]
    split
    · next own => rw [own, found]
    · rfl
  | decodes _ _ same =>
    have index : after.byChecksum = before.byChecksum.insert content.checksum content :=
      congrArg Catalogue.index same
    rw [index, Table.get?_insert]

namespace Client

/-- What watchers leave alone when they call the client in turn: the settings, the index of contents
and what the record of a document holds and shows. -/
structure Spares (space : NamespaceKey) (key : DocumentKey) (before after : Client) : Prop where
  indexed : after.cache.Indexed
  labelled : after.cache.Labelled
  settings : after.settings = before.settings
  checksums : after.cache.byChecksum = before.cache.byChecksum
  record : ∀ rest, before.cache.restAt? space key = some rest →
    ∃ later, after.cache.restAt? space key = some later ∧ later.latest = rest.latest ∧
      later.status = rest.status

variable {client : Client} {space : NamespaceKey} {key : DocumentKey}

theorem checksums_of_reaction (indexed : client.cache.Indexed) (labelled : client.cache.Labelled)
    {act : Section} (reaction : act.isReaction = true) :
    (client.perform act).2.cache.byChecksum = client.cache.byChecksum := by
  have stays := perform_generation_of_handling indexed (Section.isHandling_of_isReaction reaction)
  have none : Occurrence.stored ⟨client, act⟩ = none := by
    cases act <;> first | rfl | cases reaction
  cases perform_catalogues labelled act with
  | files files =>
    rw [none] at files
    cases files with
    | keeps same => exact congrArg Catalogue.index same
  | sweeps => cases reaction
  | resets _ same =>
    rw [same] at stays
    exact absurd stays (Nat.succ_ne_self _)

theorem settings_of_reaction (indexed : client.cache.Indexed) {act : Section}
    (reaction : act.isReaction = true) : (client.perform act).2.settings = client.settings := by
  cases act with
  | watch | unwatch => exact (perform_inside indexed rfl).settings
  | note written => rfl
  | _ => cases reaction

theorem record_of_reaction (indexed : client.cache.Indexed) {act : Section}
    (reaction : act.isReaction = true) {rest : Record}
    (found : client.cache.restAt? space key = some rest) :
    ∃ later, (client.perform act).2.cache.restAt? space key = some later ∧
      later.latest = rest.latest ∧ later.status = rest.status := by
  have step := client.does indexed act
  generalize client.perform act = result at step
  cases step with
  | quiet same => exact ⟨rest, (same.records.records space key).trans found, rfl, rfl⟩
  | @watches _ _ watcher _ _ effect =>
    rw [effect.records]
    split
    · next here =>
      obtain ⟨rfl, rfl⟩ := here
      obtain ⟨record, there, rfl⟩ := Cache.exists_recordAt? found
      rw [Cache.recordFor_found there]
      cases watcher <;> exact ⟨_, rfl, rfl, rfl⟩
    · exact ⟨rest, found, rfl, rfl⟩
  | unwatches effect =>
    rw [effect.records]
    split
    · exact ⟨(rest.removeWatcher _).2, by rw [found, Option.map_some], rfl, rfl⟩
    · exact ⟨rest, found, rfl, rfl⟩
  | replies => cases reaction
  | sweeps => cases reaction
  | resets which => rcases which with rfl | rfl <;> cases reaction

theorem Spares.perform {before : Client} (spares : Spares space key before client) {act : Section}
    (reaction : act.isReaction = true) : Spares space key before (client.perform act).2 where
  indexed := perform_indexed spares.indexed act
  labelled := perform_labelled spares.indexed spares.labelled act
  settings := (settings_of_reaction spares.indexed reaction).trans spares.settings
  checksums :=
    (checksums_of_reaction spares.indexed spares.labelled reaction).trans spares.checksums
  record rest found := by
    obtain ⟨held, there, latest, status⟩ := spares.record rest found
    obtain ⟨later, here, sameLatest, sameStatus⟩ :=
      record_of_reaction spares.indexed reaction there
    exact ⟨later, here, sameLatest.trans latest, sameStatus.trans status⟩

theorem spares_dispatch (indexed : client.cache.Indexed) (labelled : client.cache.Labelled)
    (notifications : List Notification) :
    Spares space key client (client.dispatch notifications) := by
  have telling : Telling (fun after _ => Spares space key client after) :=
    ⟨fun spares => spares.perform rfl, fun _ reaction _ spares => spares.perform reaction⟩
  exact @Telling.dispatch _ client [] telling notifications
    ⟨indexed, labelled, rfl, rfl, fun rest found => ⟨rest, found, rfl, rfl⟩⟩

/-- What handling a good reply for a document comes to, watchers told included: its checksum has a
content in the index, which the record is updated with. -/
structure Takes (client : Client) (reply : WatchResponse) (space : NamespaceKey)
    (key : DocumentKey) (rest : Record) (content : Content) (after : Client) : Prop where
  indexed : after.cache.Indexed
  labelled : after.cache.Labelled
  settings : after.settings = client.settings
  origin : client.cache.byChecksum.get? reply.checksum = some content ∨
    client.cache.byChecksum.get? reply.checksum = none ∧
      client.decodePayload reply.nodes = .ok ⟨content.value, content.positions⟩
  checksums : ∀ checksum, after.cache.byChecksum.get? checksum =
    if checksum = reply.checksum then some content else client.cache.byChecksum.get? checksum
  record : ∃ later, after.cache.restAt? space key = some later ∧
    later.latest = (rest.update ⟨reply.namespaceId, reply.version⟩ content).2.latest ∧
    later.status = (rest.update ⟨reply.namespaceId, reply.version⟩ content).2.status

theorem takes_good (indexed : client.cache.Indexed) (labelled : client.cache.Labelled)
    {reply : WatchResponse} (good : ReplyStatus.ofWatchCode reply.status = .ok)
    {decoded : Payload.Decoded} (decodes : client.decodePayload reply.nodes = .ok decoded)
    (index : client.cache.bySubscription.get? reply.uid = some (space, key)) {rest : Record}
    (found : client.cache.restAt? space key = some rest) :
    ∃ content, client.Takes reply space key rest content (client.handleReply reply) := by
  obtain ⟨record, located, _, alive⟩ := indexed.located? index
  obtain ⟨_, there⟩ := Cache.located?_eq_some_iff.mp located
  rw [Cache.restAt?_eq_some there] at found
  cases found
  obtain ⟨⟨content, cache⟩, resolved⟩ := resolve_of_resolves (.inr ⟨decoded, decodes⟩) 0
  have known : client.resolved? reply.checksum reply.nodes = some content :=
    resolved?_eq_some resolved
  have effect := replies located alive
  have verdict : client.verdict reply record.atRest =
      record.atRest.update ⟨reply.namespaceId, reply.version⟩ content := by
    simp only [Client.verdict, good, resolved]
  have files := reply_files labelled reply
  simp only [Occurrence.stored, good, index, if_true, Option.bind_some, known, Option.map_some]
    at files
  have own : content.checksum = reply.checksum := by
    rcases resolved?_origin known with held | ⟨own, _⟩
    · exact labelled.checksums _ _ held
    · exact own
  have told : Spares space key (client.applyReply reply).2 (client.handleReply reply) :=
    spares_dispatch (perform_indexed indexed (.reply reply))
      (perform_labelled indexed labelled (.reply reply)) _
  have here := effect.records space key
  rw [if_pos ⟨rfl, rfl⟩, verdict] at here
  refine ⟨content, told.indexed, told.labelled, told.settings.trans effect.outside.settings, ?_,
    fun checksum => ?_, told.record _ here⟩
  · rcases resolved?_origin known with held | ⟨_, new⟩
    · exact .inl held
    · cases before : client.cache.byChecksum.get? reply.checksum with
      | none => exact .inr ⟨rfl, new⟩
      | some held =>
        rw [Cache.resolve, before] at resolved
        cases resolved
        exact .inl rfl
  · rw [told.checksums, ← own]
    exact files.get? checksum

/-! ## Many replies -/

/-- Good replies that decode, of one namespace id, where equal versions have equal checksums. -/
structure Agreeing (client : Client) (replies : List WatchResponse) : Prop where
  good : ∀ reply ∈ replies, ReplyStatus.ofWatchCode reply.status = .ok
  decodes : ∀ reply ∈ replies, ∃ decoded, client.decodePayload reply.nodes = .ok decoded
  namespaces : ∀ left ∈ replies, ∀ right ∈ replies, left.namespaceId = right.namespaceId
  checksums : ∀ left ∈ replies, ∀ right ∈ replies, left.version = right.version →
    left.checksum = right.checksum

/-- The record holds the version of a reply and a content, and shows that the reply was good. -/
structure ShowsReply (record : Record) (reply : WatchResponse) (content : Content) : Prop where
  status : record.status = some .ok
  latest : record.latest = some (⟨reply.namespaceId, reply.version⟩, content)

/-- What a record comes to hold with replies: nothing without any, and else the latest version, with
the content that the index has under its checksum. -/
inductive Collects (client : Client) (record : Record) : List WatchResponse → Prop where
  | nothing : record.latest = none → Collects client record []
  | latest {replies : List WatchResponse} {top : WatchResponse} {content : Content} :
      top ∈ replies → (∀ reply ∈ replies, reply.version ≤ top.version) →
      ShowsReply record top content →
      client.cache.byChecksum.get? top.checksum = some content → Collects client record replies

/-- Where the content of a checksum comes from: the index had it before some replies, or it had none
and one of them brought it. -/
def BroughtBy (client : Client) (replies : List WatchResponse) (checksum : Bytes)
    (content : Content) : Prop :=
  client.cache.byChecksum.get? checksum = some content ∨
    client.cache.byChecksum.get? checksum = none ∧ ∃ reply ∈ replies, reply.checksum = checksum ∧
      client.decodePayload reply.nodes = .ok ⟨content.value, content.positions⟩

theorem BroughtBy.of_subset {replies more : List WatchResponse} {checksum : Bytes}
    {content : Content} (brought : client.BroughtBy replies checksum content)
    (inside : replies ⊆ more) : client.BroughtBy more checksum content :=
  brought.imp_right (fun new => new.imp_right (fun ⟨reply, member, rest⟩ =>
    ⟨reply, inside member, rest⟩))

/-- Where a client gets to by handling replies for a document that holds nothing. -/
structure Gathers (client : Client) (space : NamespaceKey) (key : DocumentKey)
    (replies : List WatchResponse) (after : Client) : Prop where
  indexed : after.cache.Indexed
  labelled : after.cache.Labelled
  settings : after.settings = client.settings
  kept : ∀ checksum content, client.cache.byChecksum.get? checksum = some content →
    after.cache.byChecksum.get? checksum = some content
  origin : ∀ checksum content, after.cache.byChecksum.get? checksum = some content →
    client.BroughtBy replies checksum content
  record : ∃ record, after.cache.restAt? space key = some record ∧ after.Collects record replies

theorem Agreeing.of_subset {replies fewer : List WatchResponse}
    (agreeing : client.Agreeing replies) (inside : fewer ⊆ replies) : client.Agreeing fewer where
  good reply member := agreeing.good reply (inside member)
  decodes reply member := agreeing.decodes reply (inside member)
  namespaces left leftMember right rightMember :=
    agreeing.namespaces left (inside leftMember) right (inside rightMember)
  checksums left leftMember right rightMember :=
    agreeing.checksums left (inside leftMember) right (inside rightMember)

/-- A reply more: its version is held if it is the latest of all, and passed over otherwise. -/
theorem Collects.snoc {before after : Client} {record later : Record}
    {replies : List WatchResponse} {reply : WatchResponse} {content : Content}
    (collects : before.Collects record replies) (alive : record.state ≠ .deactivated)
    (same : ∀ other ∈ replies, other.namespaceId = reply.namespaceId)
    (index : ∀ checksum, after.cache.byChecksum.get? checksum =
      if checksum = reply.checksum then some content else before.cache.byChecksum.get? checksum)
    (kept : ∀ held, before.cache.byChecksum.get? reply.checksum = some held → held = content)
    (latest : later.latest = (record.update ⟨reply.namespaceId, reply.version⟩ content).2.latest)
    (status : later.status = (record.update ⟨reply.namespaceId, reply.version⟩ content).2.status) :
    after.Collects later (replies ++ [reply]) := by
  have member : reply ∈ replies ++ [reply] := List.mem_append_right _ List.mem_cons_self
  have here : after.cache.byChecksum.get? reply.checksum = some content := by
    rw [index, if_pos rfl]
  cases collects with
  | nothing empty =>
    have news : record.isNews ⟨reply.namespaceId, reply.version⟩ = true := by
      rw [Record.isNews, empty]
    rw [Record.update_of_news alive news] at latest status
    exact .latest member (by simp) ⟨status, latest⟩ here
  | @latest _ top held topMember largest shows indexed =>
    have sameSpace := same top topMember
    by_cases stale : reply.version ≤ top.version
    · have old : record.isNews ⟨reply.namespaceId, reply.version⟩ = false := by
        rw [Record.isNews, shows.latest]
        exact Version.supersedes_eq_false_iff.mpr ⟨sameSpace.symm, stale⟩
      rw [Record.update_of_stale old] at latest status
      refine .latest (List.mem_append_left _ topMember)
        (List.forall_mem_append.mpr ⟨largest, by simpa using stale⟩)
        ⟨status.trans shows.status, latest.trans shows.latest⟩ ?_
      rw [index]
      split
      · next own => rw [kept held (own ▸ indexed)]
      · exact indexed
    · have news : record.isNews ⟨reply.namespaceId, reply.version⟩ = true := by
        rw [Record.isNews, shows.latest, ← Bool.not_eq_false]
        exact fun old => stale (Version.supersedes_eq_false_iff.mp old).2
      rw [Record.update_of_news alive news] at latest status
      have above := UInt32.not_le.mp stale
      refine .latest member (List.forall_mem_append.mpr ⟨fun other there => ?_, by simp⟩)
        ⟨status, latest⟩ here
      exact UInt32.le_trans (largest other there) (UInt32.le_of_lt above)

theorem gathers_handleAll (indexed : client.cache.Indexed) (labelled : client.cache.Labelled)
    {rest : Record} (found : client.cache.restAt? space key = some rest)
    (empty : rest.latest = none) {replies : List WatchResponse}
    (agreeing : client.Agreeing replies) (allFor : client.AllFor space key replies) :
    client.Gathers space key replies (client.handleAll replies) := by
  induction replies using List.reverseRecOn with
  | nil =>
    exact ⟨indexed, labelled, rfl, fun _ _ there => there, fun _ _ there => .inl there,
      rest, found, .nothing empty⟩
  | append_singleton replies reply ih =>
    obtain ⟨before, index⟩ := AllFor.snoc_iff.mp allFor
    have gathers := ih (agreeing.of_subset (List.subset_append_left _ _)) before
    have member : reply ∈ replies ++ [reply] := List.mem_append_right _ List.mem_cons_self
    obtain ⟨decoded, decodes⟩ := agreeing.decodes reply member
    have same (nodes : List Node) :
        (client.handleAll replies).decodePayload nodes = client.decodePayload nodes := by
      rw [decodePayload, gathers.settings, decodePayload]
    obtain ⟨record, there, collects⟩ := gathers.record
    obtain ⟨content, takes⟩ := takes_good gathers.indexed gathers.labelled
      (agreeing.good reply member) ((same reply.nodes).trans decodes) index there
    have kept (held : Content) (known : (client.handleAll replies).cache.byChecksum.get?
        reply.checksum = some held) : held = content := by
      rcases takes.origin with found | ⟨none, _⟩
      · exact Option.some.inj (known.symm.trans found)
      · rw [none] at known
        cases known
    rw [handleAll_snoc]
    refine ⟨takes.indexed, takes.labelled, takes.settings.trans gathers.settings,
      fun checksum held known => ?_, fun checksum held known => ?_, ?_⟩
    · rw [takes.checksums]
      split
      · next own => rw [kept held (own ▸ gathers.kept checksum held known)]
      · exact gathers.kept checksum held known
    · have earlier (there : (client.handleAll replies).cache.byChecksum.get? checksum =
          some held) : client.BroughtBy (replies ++ [reply]) checksum held :=
        (gathers.origin checksum held there).of_subset (List.subset_append_left _ _)
      rw [takes.checksums] at known
      split at known
      · next own =>
        subst own
        cases known
        rcases takes.origin with found | ⟨none, new⟩
        · exact earlier found
        · refine .inr ⟨?_, reply, member, rfl, (same reply.nodes).symm.trans new⟩
          rw [Option.eq_none_iff_forall_ne_some]
          intro other there
          rw [gathers.kept _ other there] at none
          cases none
      · exact earlier known
    · obtain ⟨later, found, latest, status⟩ := takes.record
      have alive := (gathers.indexed.alive space key record there).active
      exact ⟨later, found, collects.snoc alive (fun other inside => agreeing.namespaces other
        (List.mem_append_left _ inside) reply member) takes.checksums kept latest status⟩

end Client

theorem WatchResponse.exists_latest {replies : List WatchResponse} (nonempty : replies ≠ []) :
    ∃ top ∈ replies, ∀ reply ∈ replies, reply.version ≤ top.version := by
  cases largest : replies.argmax (fun reply => reply.version.toNat) with
  | none => exact absurd (List.argmax_eq_none.mp largest) nonempty
  | some top =>
    refine ⟨top, List.argmax_mem largest, fun reply member => ?_⟩
    have bound := List.le_of_mem_argmax member largest
    exact UInt32.le_iff_toNat_le.mpr bound

/-- The order of delivery does not matter within a namespace id. Take good replies that decode, of
one namespace id and with equal checksums for equal versions, for a record that holds nothing. In
whatever order and however often they are handled, as long as each is for the document when its turn
comes, the record shows in the end that the last reply was good, and holds the latest version of all
with the content that the index has under the checksum of that version: the one from before, or else
one that a reply brought. While ids last, replies that name the id of the record are for its
document. -/
theorem delivery_order_is_irrelevant {start client : Client} {history : List Occurrence}
    (fresh : start.Fresh) (run : Run start history client) {id : UInt32} {space : NamespaceKey}
    {key : DocumentKey} {record : Record}
    (located : client.cache.located? id = some (space, key, record)) (empty : record.latest = none)
    {replies : List WatchResponse} (nonempty : replies ≠ []) (agreeing : client.Agreeing replies)
    (own : ∀ reply ∈ replies, reply.uid = id) :
    ∃ top ∈ replies, (∀ reply ∈ replies, reply.version ≤ top.version) ∧
      ∀ order : List WatchResponse, (∀ reply, reply ∈ order ↔ reply ∈ replies) →
        (client.AllFor space key order →
          ∃ last content,
            (client.handleAll order).cache.recordAt? space key = some last ∧
            Client.ShowsReply last top content ∧
            (client.handleAll order).cache.byChecksum.get? top.checksum = some content ∧
            content.checksum = top.checksum ∧
            client.BroughtBy replies top.checksum content) ∧
        ∃ later, Leading start history client later (client.handleAll order) ∧
          ((ledger (history ++ later) (client.handleAll order)).opened.length < 2 ^ 32 →
            client.AllFor space key order) := by
  obtain ⟨index, found⟩ := Cache.located?_eq_some_iff.mp located
  have indexed := run.indexed fresh
  have rest := Cache.restAt?_eq_some found
  obtain ⟨_, there, named, _⟩ := indexed.located? index
  rw [located] at there
  cases there
  obtain ⟨top, member, largest⟩ := WatchResponse.exists_latest nonempty
  refine ⟨top, member, largest, fun order members => ⟨fun allFor => ?_, ?_⟩⟩
  · have inside : order ⊆ replies := fun reply => (members reply).mp
    have gathers := Client.gathers_handleAll indexed (run.labelled fresh) rest empty
      (agreeing.of_subset inside) allFor
    obtain ⟨_, held, collects⟩ := gathers.record
    obtain ⟨last, here, rfl⟩ := Cache.exists_recordAt? held
    have ordered := (members top).mpr member
    cases collects with
    | nothing => cases ordered
    | @latest _ other content otherMember otherLargest shows known =>
      have version : other.version = top.version :=
        UInt32.le_antisymm (largest other (inside otherMember)) (otherLargest top ordered)
      have same := agreeing.namespaces other (inside otherMember) top member
      have checksum := agreeing.checksums other (inside otherMember) top member version
      rw [checksum] at known
      refine ⟨last, content, here, ⟨shows.status, ?_⟩, known,
        gathers.labelled.checksums _ _ known, (gathers.origin _ _ known).of_subset inside⟩
      rw [← same, ← version]
      exact shows.latest
  · exact run.allFor_of_few fresh rest (fun reply inside =>
      (own reply ((members reply).mp inside)).trans named.symm)

/-- A document is watched, and so is another one, once there is a value. -/
private def watchingNext : List Section :=
  [.watch { root := "/srv" } { document := "a" }
    (some ("A", .watch { root := "/srv" } { document := "b" } "B" .idle))]

private def deliversVersion (version : UInt32) (byte : UInt8) (number : Int64) : WatchResponse :=
  { namespaceId := 1, version, checksum := [byte], nodes := [{ valueType := 4, int := number }] }

private theorem agreeing_deliversVersion :
    (Client.byDefault.performAll watchingNext).Agreeing
      [deliversVersion 1 1 10, deliversVersion 2 2 20] where
  good := by decide
  decodes := by
    intro reply member
    simp only [List.mem_cons, List.not_mem_nil, or_false] at member
    rcases member with rfl | rfl <;> exact ⟨_, rfl⟩
  namespaces := by decide
  checksums := by decide

private theorem located_watchingNext :
    ∃ record, (Client.byDefault.performAll watchingNext).cache.located? 0 =
      some ({ root := "/srv" }, { document := "a" }, record) ∧ record.latest = none :=
  ⟨_, rfl, rfl⟩

private theorem allFor_deliversVersion :
    (Client.byDefault.performAll watchingNext).AllFor { root := "/srv" } { document := "a" }
      ([] ++ [deliversVersion 2 2 20] ++ [deliversVersion 1 1 10] ++ [deliversVersion 2 2 20]) := by
  simp only [Client.AllFor.snoc_iff]
  exact ⟨⟨⟨.nil, by decide +kernel⟩, by decide +kernel⟩, by decide +kernel⟩

/-- The second version comes first, then the first one and the second one again. -/
theorem delivery_order_is_irrelevant_late_first :
    ∃ history client last content,
      Run Client.byDefault history client ∧
      (client.handleAll [deliversVersion 2 2 20, deliversVersion 1 1 10,
        deliversVersion 2 2 20]).cache.recordAt? { root := "/srv" } { document := "a" } =
          some last ∧
      last.status = some .ok ∧ last.latest = some (⟨1, 2⟩, content) ∧ content.checksum = [2] := by
  have run : Run Client.byDefault _ (Client.byDefault.performAll watchingNext) :=
    Run.start.performAll watchingNext
  obtain ⟨record, located, empty⟩ := located_watchingNext
  obtain ⟨top, member, largest, ends⟩ := delivery_order_is_irrelevant Client.byDefault_fresh run
    located empty (by simp) agreeing_deliversVersion (by decide)
  have latest : top = deliversVersion 2 2 20 := by
    simp only [List.mem_cons, List.not_mem_nil, or_false] at member
    rcases member with rfl | rfl
    · exact absurd (largest _ (.tail _ List.mem_cons_self)) (by decide)
    · rfl
  obtain ⟨converges, _⟩ := ends
    [deliversVersion 2 2 20, deliversVersion 1 1 10, deliversVersion 2 2 20] (by simp [or_comm])
  obtain ⟨last, content, here, shows, _, checksum, _⟩ := converges allFor_deliversVersion
  subst latest
  exact ⟨_, _, last, content, run, here, shows.status, shows.latest, checksum⟩

end ConfigWatch
