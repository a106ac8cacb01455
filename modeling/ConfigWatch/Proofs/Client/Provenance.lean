import ConfigWatch.Proofs.Client.Snapshots

/-!
# Provenance

Whatever a client holds or answers of a document was obtained from the server, for that document
at that version. A session therefore is a snapshot: what it tells was obtained at the version of
its first good read, and what it told once it tells again.
-/

set_option autoImplicit false

namespace ConfigWatch

/-- How a client obtains a content of a document at a version: with a good reply to its
subscription, or with the good answer to a read of it. -/
inductive Occurrence.Obtains (occurrence : Occurrence) (space : NamespaceKey)
    (key : DocumentKey) : Version → Content → Prop where
  | news {reply : WatchResponse} {content : Content} :
      occurrence.act = .reply reply → ReplyStatus.ofWatchCode reply.status = .ok →
      occurrence.before.cache.bySubscription.get? reply.uid = some (space, key) →
      occurrence.before.resolved? reply.checksum reply.nodes = some content →
      Obtains occurrence space key ⟨reply.namespaceId, reply.version⟩ content
  | answer {pinned : Option Version} {answer : ReadResponse} {content : Content} :
      occurrence.act = .finishRead ⟨space, key, pinned⟩ (.ok answer) →
      (ReplyStatus.ofReadCode answer.status).isOk = true →
      occurrence.before.resolved? answer.checksum answer.nodes = some content →
      Obtains occurrence space key ⟨answer.namespaceId, answer.version⟩ content

/-- A content of a document at a version that was obtained in a history. -/
def Obtained (history : List Occurrence) (space : NamespaceKey) (key : DocumentKey)
    (version : Version) (content : Content) : Prop :=
  ∃ occurrence ∈ history, occurrence.Obtains space key version content

theorem Obtained.append {history later : List Occurrence} {space : NamespaceKey}
    {key : DocumentKey} {version : Version} {content : Content}
    (obtained : Obtained history space key version content) :
    Obtained (history ++ later) space key version content := by
  obtain ⟨occurrence, member, obtains⟩ := obtained
  exact ⟨occurrence, List.mem_append_left _ member, obtains⟩

namespace Occurrence

theorem obtains_of_accepts {occurrence : Occurrence} {asked : PendingRead}
    {answer : ReadResponse} {reply : ReadReply} {content : Content}
    (act : occurrence.act = .finishRead asked (.ok answer))
    (accepts : occurrence.before.Accepts asked answer reply)
    (told : reply.content = some content) :
    occurrence.Obtains asked.space asked.key reply.version content := by
  obtain ⟨good, resolved⟩ := accepts.content content told
  rw [accepts.version]
  exact .answer act (accepts.status ▸ good) resolved

theorem obtains_of_stored {occurrence : Occurrence} {gain : Stored}
    (stored : occurrence.stored = some gain) :
    occurrence.Obtains gain.space gain.key gain.version gain.content := by
  obtain ⟨client, act⟩ := occurrence
  cases act with
  | reply reply =>
    obtain ⟨good, index, version, resolved⟩ := Client.stored_reply stored
    rw [version]
    exact .news rfl good index resolved
  | finishRead pending response =>
    obtain ⟨answer, reply, rfl, accepts, told, same⟩ := Client.stored_read stored
    rw [same]
    exact obtains_of_accepts rfl accepts told
  | _ => cases stored

end Occurrence

/-! ## What a client holds -/

/-- Whatever a cache holds of documents was obtained in a history. -/
structure Cache.Derives (cache : Cache) (history : List Occurrence) : Prop where
  entered : ∀ space version key content, cache.contentAt? space version key = some content →
    Obtained history space key version content
  latest : ∀ space key rest version content, cache.restAt? space key = some rest →
    rest.latest = some (version, content) → Obtained history space key version content

theorem Cache.Derives.perform {client : Client} {history : List Occurrence} {act : Section}
    (derives : client.cache.Derives history) (indexed : client.cache.Indexed) :
    (client.perform act).2.cache.Derives (history ++ [⟨client, act⟩]) := by
  have obtained {gain : Stored} (stored : Occurrence.stored ⟨client, act⟩ = some gain) :
      Obtained (history ++ [⟨client, act⟩]) gain.space gain.key gain.version gain.content :=
    ⟨_, List.mem_append_right _ (List.mem_singleton_self _),
      Occurrence.obtains_of_stored stored⟩
  constructor
  · intro space version key content here
    rcases (client.perform_gains act).entered space version key content here with there | given
    · exact (derives.entered space version key content there).append
    · exact obtained given
  · intro space key rest version content found latest
    rcases Client.latest_of_perform indexed found latest with ⟨earlier, there, held⟩ | given
    · exact (derives.latest space key earlier version content there held).append
    · exact obtained given

section

variable {start client : Client} {history : List Occurrence}

theorem Run.derives (fresh : start.Fresh) (run : Run start history client) :
    client.cache.Derives history := by
  induction run with
  | start =>
    rw [fresh.eq]
    exact ⟨fun _ _ _ _ here => (by cases here), fun _ _ _ _ _ found => (by cases found)⟩
  | step act run ih => exact ih.perform (run.indexed fresh)

/-- The content of an answer was obtained by then, at the version of the answer. -/
theorem Run.obtained_of_answer (fresh : start.Fresh) (run : Run start history client)
    {act : Section} {asked : PendingRead} {reply : ReadReply} {content : Content}
    (answered : Occurrence.answer? ⟨client, act⟩ = some (asked, reply))
    (told : reply.content = some content) :
    Obtained (history ++ [⟨client, act⟩]) asked.space asked.key reply.version content := by
  have derives := run.derives fresh
  cases Occurrence.origin answered with
  | held _ found _ latest =>
    cases told
    exact (derives.latest _ _ _ _ _ (Cache.restAt?_eq_some found) latest).append
  | kept _ found =>
    cases told
    exact (derives.entered _ _ _ _ found).append
  | served same accepts =>
    exact ⟨_, List.mem_append_right _ (List.mem_singleton_self _),
      Occurrence.obtains_of_accepts same accepts told⟩

/-! ## What a session tells -/

theorem Sits.steady_obtained (fresh : start.Fresh) {space : NamespaceKey} {sitting : Sitting}
    (sits : Sits start space history client sitting) :
    sitting.Steady (Obtained history) space := by
  refine sits.steady (fun occurrence member asked reply content answered told => ?_)
  obtain ⟨earlier, later, rfl, before⟩ := sits.run.upTo member
  rw [List.append_cons]
  exact (before.obtained_of_answer fresh answered told).append

/-- A session is one snapshot. Whatever it told in a good answer it holds, was obtained at the
version that it was pinned to then and is pinned to still, and is told again without the client; no
later result contradicts an earlier one; and a read that comes to no good answer leaves the
session as it was. -/
theorem session_is_snapshot (fresh : start.Fresh) {space : NamespaceKey} {sitting : Sitting}
    (sits : Sits start space history client sitting) :
    (∀ result ∈ sitting.results, Session.isGood result.outcome = true → ∃ version content,
      result.outcome = .ok ⟨.ok, some content⟩ ∧ result.pinned = some version ∧
      sitting.session.pinned = some version ∧
      Obtained history space result.key version content ∧
      ∀ other : Client, sitting.session.beginRead other result.key =
        (.done (.ok ⟨.ok, some content⟩), sitting.session, other)) ∧
    sitting.results.Pairwise Session.Result.Follows ∧
    (∀ (other : Client) (key : DocumentKey),
      (sitting.session.beginRead other key).1.isGood = false →
        (sitting.session.beginRead other key).2.1 = sitting.session) ∧
    (∀ (other : Client) (pending : PendingRead) (response : Except Error ReadResponse),
      Session.isGood (sitting.session.finishRead other pending response).1 = false →
        (sitting.session.finishRead other pending response).2.1 = sitting.session) := by
  have steady := sits.steady_obtained fresh
  refine ⟨fun result member good => ?_, steady.sequence,
    fun _ _ => Session.beginRead_steady, fun _ _ _ => Session.finishRead_steady⟩
  cases steady.results result member with
  | failed failed =>
    rw [failed] at good
    cases good
  | refused refused bad =>
    rw [refused, Session.isGood, bad] at good
    cases good
  | @told version content told then_ pinned held =>
    obtain ⟨pin, same, obtained⟩ := steady.contents result.key content held
    rw [pinned] at same
    cases same
    exact ⟨version, content, told, then_, pinned, obtained, Session.beginRead_held held⟩

end

/-- A payload of one number. -/
private def single (number : Int64) : List Node := [{ valueType := 4, int := number }]

/-- A document is watched, and the server sends its version 7. -/
private def firstVersion : List Section :=
  [.watch { root := "/srv" } { document := "a" } none,
    .reply { namespaceId := 1, version := 7, checksum := [7], nodes := single 7 }]

/-- The server sends version 8. -/
private def nextVersion : Section :=
  .reply { namespaceId := 1, version := 8, checksum := [8], nodes := single 8 }

/-- A document is read from the subscription at version 7. The namespace advances, so the read of
another document is answered at version 8, which is refused, then at version 7. The first document
is read once more. -/
theorem session_is_snapshot_advancing :
    ∃ history client sitting, Sits Client.byDefault { root := "/srv" } history client sitting ∧
      sitting.results.map (fun result => (result.key.document, Session.isGood result.outcome)) =
        [("a", true), ("b", false), ("b", true), ("a", true)] ∧
      sitting.session.pinned = some ⟨1, 7⟩ ∧
      sitting.results.Pairwise Session.Result.Follows ∧
      ∀ result ∈ sitting.results, Session.isGood result.outcome = true →
        ∃ version content, result.pinned = some version ∧
          Obtained history { root := "/srv" } result.key version content := by
  have run : Run Client.byDefault _ _ := Run.start.performAll firstVersion
  have opened : Sits Client.byDefault { root := "/srv" } _ _ { session := { space := _ } } :=
    .opens run
  have first := opened.begins { document := "a" } rfl rfl
  have asked := (first.elsewhere nextVersion).begins { document := "b" } rfl rfl
  have refused := asked.ends
    (.ok { namespaceId := 1, version := 8, checksum := [18], nodes := single 18 }) rfl
  have again := refused.begins { document := "b" } rfl rfl
  have second := again.ends
    (.ok { namespaceId := 1, version := 7, checksum := [17], nodes := single 17 }) rfl
  have sits := second.alone { document := "a" } (.inl rfl) rfl
  obtain ⟨returned, sequence, _, _⟩ := session_is_snapshot Client.byDefault_fresh sits
  refine ⟨_, _, _, sits, rfl, rfl, sequence, fun result member good => ?_⟩
  obtain ⟨version, content, _, pinned, _, obtained, _⟩ := returned result member good
  exact ⟨version, content, pinned, obtained⟩

end ConfigWatch
