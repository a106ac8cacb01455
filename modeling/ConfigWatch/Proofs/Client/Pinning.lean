import ConfigWatch.Proofs.Client.Storing
import ConfigWatch.Scenario.Operation
import Mathlib.Logic.ExistsUnique

/-!
# Pinned reads

A read that is pinned to a version is answered with that version, or with no version at all. What
the server sends is checked before anything of it is stored, so that a read without a good answer
leaves the client as it was.
-/

set_option autoImplicit false

namespace ConfigWatch

def ReadResponse.held (response : ReadResponse) : Version :=
  ⟨response.namespaceId, response.version⟩

/-- A read that came to its end: the request, if one was made, the outcome and the client after. -/
structure CompletedRead where
  request : Option ReadRequest
  outcome : Except Error ReadReply
  after : Client

/-- Reads a document. The answer counts only if the server is asked, and others may change the
client until it comes. -/
def Client.get (client : Client) (asked : PendingRead) (answer : Except Error ReadResponse)
    (meanwhile : Client → Client) : CompletedRead :=
  match client.beginRead asked.space asked.key asked.pinned with
  | (.done outcome, after) => ⟨none, outcome, after⟩
  | (.ask request pending, after) =>
    ⟨some request, ((meanwhile after).finishRead pending answer).1,
      ((meanwhile after).finishRead pending answer).2⟩

/-- A read of a scenario is a read that nothing comes between. -/
theorem Scenario.read_eq (scenario : Scenario) (space : NamespaceKey) (key : DocumentKey)
    (pinned : Option Version) (answer : Except Error ReadResponse) :
    let read := scenario.client.get ⟨space, key, pinned⟩ answer id
    scenario.read space key pinned answer =
      (.ofOutcome .reply read.outcome,
        read.request.elim { scenario with client := read.after }
          { scenario with client := read.after }.recordRead) := by
  unfold Scenario.read Client.get
  generalize scenario.client.beginRead space key pinned = begun
  obtain ⟨step, client⟩ := begun
  cases step with
  | done outcome => rfl
  | ask request pending => rfl

/-- An answer breaks a pin: it is good and of another version, or tells that there is no such
version. -/
def ReadResponse.Breaks (response : ReadResponse) (version : Version) : Prop :=
  ReplyStatus.ofReadCode response.status = .ok ∧ response.held ≠ version ∨
    ReplyStatus.ofReadCode response.status = .invalidVersion

/-- The ways in which a pinned read ends. -/
inductive PinnedEnd where
  | good
  | refused
  | failed
  | undecodable
  | inconsistent
deriving DecidableEq

/-- What a pinned read comes to in each way. The answer finds another client than the read began
with, if others changed it in between. -/
inductive PinnedEnd.Reached (client between : Client) (space : NamespaceKey) (key : DocumentKey)
    (version : Version) (answer : Except Error ReadResponse) :
    PinnedEnd → CompletedRead → Prop where
  | kept {content : Content} {after : Client} :
      client.cache.contentAt? space version key = some content →
      Reached client between space key version answer .good
        ⟨none, .ok { status := .ok, version, content := some content }, after⟩
  | served {response : ReadResponse} {content : Content} {after : Client} :
      client.cache.contentAt? space version key = none → answer = .ok response →
      ReplyStatus.ofReadCode response.status = .ok → response.held = version →
      between.resolved? response.checksum response.nodes = some content →
      Reached client between space key version answer .good
        ⟨some (client.readRequest ⟨space, key, some version⟩),
          .ok
            { status := .ok
              version
              content := some content
              logs := Log.ofEntries response.logs
              sources := Source.index response.sources },
          after⟩
  | refused {response : ReadResponse} :
      client.cache.contentAt? space version key = none → answer = .ok response →
      ReplyStatus.ofReadCode response.status ≠ .ok →
      ReplyStatus.ofReadCode response.status ≠ .invalidVersion →
      Reached client between space key version answer .refused
        ⟨some (client.readRequest ⟨space, key, some version⟩),
          .ok
            { status := ReplyStatus.ofReadCode response.status
              version := response.held
              content := none
              logs := Log.ofEntries response.logs
              sources := Source.index response.sources },
          between⟩
  | failed {cause : Error} :
      client.cache.contentAt? space version key = none → answer = .error cause →
      Reached client between space key version answer .failed
        ⟨some (client.readRequest ⟨space, key, some version⟩), .error cause, between⟩
  | undecodable {response : ReadResponse} {cause : DecodeError} :
      client.cache.contentAt? space version key = none → answer = .ok response →
      ReplyStatus.ofReadCode response.status = .ok → response.held = version →
      between.resolved? response.checksum response.nodes = none →
      between.decodePayload response.nodes = .error cause →
      Reached client between space key version answer .undecodable
        ⟨some (client.readRequest ⟨space, key, some version⟩), .error (.decode cause), between⟩
  | inconsistent {response : ReadResponse} :
      client.cache.contentAt? space version key = none → answer = .ok response →
      response.Breaks version →
      Reached client between space key version answer .inconsistent
        ⟨some (client.readRequest ⟨space, key, some version⟩),
          .error (.inconsistent version response.held), between⟩

theorem ReplyStatus.isOk_eq_true_iff {status : ReplyStatus} :
    status.isOk = true ↔ status = .ok := by
  cases status <;> decide

theorem Client.breaksPin_eq_true_iff {response : ReadResponse} {version : Version} :
    Client.breaksPin version response.held (ReplyStatus.ofReadCode response.status) = true ↔
      response.Breaks version := by
  simp [breaksPin, ReadResponse.Breaks, ReplyStatus.isOk_eq_true_iff]

namespace Client

variable {client : Client} {space : NamespaceKey} {key : DocumentKey} {version : Version}

theorem get_of_kept (opened : client.closed = false) {content : Content}
    (kept : client.cache.contentAt? space version key = some content)
    (answer : Except Error ReadResponse) (meanwhile : Client → Client) :
    ∃ after, client.get ⟨space, key, some version⟩ answer meanwhile =
      ⟨none, .ok { status := .ok, version, content := some content }, after⟩ := by
  simp [get, beginRead, ensureOpen, opened, cached, now, Cache.readVersion, kept]

theorem get_of_missing (opened : client.closed = false)
    (missing : client.cache.contentAt? space version key = none)
    (answer : Except Error ReadResponse) (meanwhile : Client → Client) :
    client.get ⟨space, key, some version⟩ answer meanwhile =
      ⟨some (client.readRequest ⟨space, key, some version⟩),
        ((meanwhile client).finishRead ⟨space, key, some version⟩ answer).1,
        ((meanwhile client).finishRead ⟨space, key, some version⟩ answer).2⟩ := by
  simp [get, beginRead, ensureOpen, opened, cached, now, Cache.readVersion, missing]

private theorem storeRead_error {client : Client} {pending : PendingRead}
    {response : ReadResponse} {cause : Error}
    (failed : client.storeRead pending response = .error cause) :
    ∃ fault, cause = .decode fault ∧ client.resolved? response.checksum response.nodes = none ∧
      client.decodePayload response.nodes = .error fault := by
  rw [storeRead_stages, Cache.resolve] at failed
  cases known : client.cache.byChecksum.get? response.checksum with
  | some content =>
    rw [known] at failed
    cases failed
  | none =>
    rw [known] at failed
    cases decoded : client.decodePayload response.nodes with
    | ok value =>
      rw [decoded] at failed
      cases failed
    | error fault =>
      rw [decoded] at failed
      cases failed
      refine ⟨fault, rfl, ?_, rfl⟩
      rw [resolved?, Cache.resolve, known]
      dsimp only
      rw [decoded]
      rfl

/-- What the answer of the server makes of a read, once it was asked. -/
theorem finishRead_reached (between : Client)
    (missing : client.cache.contentAt? space version key = none)
    (answer : Except Error ReadResponse) :
    ∃ ending, PinnedEnd.Reached client between space key version answer ending
      ⟨some (client.readRequest ⟨space, key, some version⟩),
        (between.finishRead ⟨space, key, some version⟩ answer).1,
        (between.finishRead ⟨space, key, some version⟩ answer).2⟩ := by
  cases answer with
  | error cause => exact ⟨.failed, .failed missing rfl⟩
  | ok response =>
    by_cases breaks : response.Breaks version
    · have broken : ((some version).filter (fun pinned => breaksPin pinned
          ⟨response.namespaceId, response.version⟩ (ReplyStatus.ofReadCode response.status))) =
          some version := by
        rw [Option.filter_some]
        exact if_pos (breaksPin_eq_true_iff.mpr breaks)
      simp only [finishRead, broken]
      exact ⟨.inconsistent, .inconsistent missing rfl breaks⟩
    · have kept : ((some version).filter (fun pinned => breaksPin pinned
          ⟨response.namespaceId, response.version⟩ (ReplyStatus.ofReadCode response.status))) =
          none := by
        rw [Option.filter_some]
        exact if_neg (mt breaksPin_eq_true_iff.mp breaks)
      obtain ⟨same, known⟩ := not_or.mp breaks
      simp only [finishRead, kept]
      by_cases good : ReplyStatus.ofReadCode response.status = .ok
      · have held : response.held = version := Decidable.not_not.mp (not_and.mp same good)
        rw [if_pos (ReplyStatus.isOk_eq_true_iff.mpr good)]
        cases stored : between.storeRead ⟨space, key, some version⟩ response with
        | error cause =>
          obtain ⟨fault, rfl, unknown, undecodable⟩ := storeRead_error stored
          exact ⟨.undecodable, .undecodable missing rfl good held unknown undecodable⟩
        | ok found =>
          obtain ⟨content, after⟩ := found
          have resolved := storeRead_resolved stored
          refine ⟨.good, ?_⟩
          rw [good, show (⟨response.namespaceId, response.version⟩ : Version) = version from held]
          exact .served missing rfl good held resolved
      · rw [if_neg (mt ReplyStatus.isOk_eq_true_iff.mp good)]
        exact ⟨.refused, .refused missing rfl good known⟩

end Client

namespace PinnedEnd.Reached

variable {client between : Client} {space : NamespaceKey} {key : DocumentKey} {version : Version}
  {answer : Except Error ReadResponse} {ending other : PinnedEnd} {read another : CompletedRead}

theorem unique (reached : Reached client between space key version answer ending read)
    (also : Reached client between space key version answer other another) : ending = other := by
  cases reached <;> cases also <;> simp_all [ReadResponse.Breaks]

/-- A read is told that the promise was broken when it was, or when the transport says so itself. -/
theorem told_inconsistent_iff
    (reached : Reached client between space key version answer ending read)
    {requested received : Version} :
    read.outcome = .error (.inconsistent requested received) ↔
      read.request.isSome = true ∧
        ((requested = version ∧ ∃ response, answer = .ok response ∧ response.Breaks version ∧
            received = response.held) ∨
          answer = .error (.inconsistent requested received)) := by
  cases reached with
  | inconsistent missing answered breaks => simp [answered, breaks, eq_comm]
  | kept | served | refused | failed | undecodable => simp_all [ReadResponse.Breaks]

theorem version_of_good (reached : Reached client between space key version answer ending read)
    {reply : ReadReply} (answered : read.outcome = .ok reply) :
    if reply.status = .ok then reply.version = version ∧ reply.content.isSome = true
    else reply.status ≠ .invalidVersion ∧ reply.content = none := by
  cases reached with
  | kept | served =>
    cases answered
    exact ⟨rfl, rfl⟩
  | refused _ _ bad known =>
    cases answered
    rw [if_neg bad]
    exact ⟨known, rfl⟩
  | failed | undecodable | inconsistent => cases answered

theorem after_of_bad (reached : Reached client between space key version answer ending read)
    (bad : ∀ reply, read.outcome = .ok reply → reply.status ≠ .ok) : read.after = between := by
  cases reached with
  | kept | served => exact absurd rfl (bad _ rfl)
  | refused | failed | undecodable | inconsistent => rfl

end PinnedEnd.Reached

theorem Client.get_reached {client : Client} (opened : client.closed = false)
    (space : NamespaceKey) (key : DocumentKey) (version : Version)
    (answer : Except Error ReadResponse) (meanwhile : Client → Client) :
    ∃ ending, PinnedEnd.Reached client (meanwhile client) space key version answer ending
      (client.get ⟨space, key, some version⟩ answer meanwhile) := by
  cases found : client.cache.contentAt? space version key with
  | some content =>
    obtain ⟨after, result⟩ := get_of_kept opened found answer meanwhile
    rw [result]
    exact ⟨.good, .kept found⟩
  | none =>
    rw [get_of_missing opened found]
    exact finishRead_reached (meanwhile client) found answer

/-- A pinned read of a client that is not closed ends in just one way. It is told that the promise
was broken, with both versions, just if the answer of the server breaks the pin or the transport
says so itself. A good reply is of the version, another one has no content, and but for a good reply
the client stays as the answer found it. -/
theorem pinned_read_never_substitutes {client : Client} (opened : client.closed = false)
    (space : NamespaceKey) (key : DocumentKey) (version : Version)
    (answer : Except Error ReadResponse) (meanwhile : Client → Client) :
    let read := client.get ⟨space, key, some version⟩ answer meanwhile
    (∃! ending, PinnedEnd.Reached client (meanwhile client) space key version answer ending
      read) ∧
    (∀ requested received, read.outcome = .error (.inconsistent requested received) ↔
      read.request.isSome = true ∧
        ((requested = version ∧ ∃ response, answer = .ok response ∧ response.Breaks version ∧
            received = response.held) ∨
          answer = .error (.inconsistent requested received))) ∧
    (∀ reply, read.outcome = .ok reply →
      if reply.status = .ok then reply.version = version ∧ reply.content.isSome = true
      else reply.status ≠ .invalidVersion ∧ reply.content = none) ∧
    ((∀ reply, read.outcome = .ok reply → reply.status ≠ .ok) →
      read.after = meanwhile client) := by
  intro read
  obtain ⟨ending, reached⟩ := client.get_reached opened space key version answer meanwhile
  refine ⟨⟨ending, reached, fun other also => also.unique reached⟩, fun requested received => ?_,
    fun reply answered => ?_, fun bad => ?_⟩
  · exact reached.told_inconsistent_iff
  · exact reached.version_of_good answered
  · exact reached.after_of_bad bad

/-- The server answers with an equal number of another namespace. -/
theorem pinned_read_never_substitutes_other_namespace :
    let read := Client.byDefault.get ⟨{ root := "/srv" }, { document := "a" }, some ⟨1, 1⟩⟩
      (.ok { namespaceId := 2, version := 1 }) id
    read.outcome = .error (.inconsistent ⟨1, 1⟩ ⟨2, 1⟩) ∧ read.after = Client.byDefault := by
  intro read
  have opened : Client.byDefault.closed = false := rfl
  obtain ⟨_, told, _, kept⟩ := pinned_read_never_substitutes opened
    { root := "/srv" } { document := "a" } ⟨1, 1⟩ (.ok { namespaceId := 2, version := 1 }) id
  have broken : read.outcome = .error (.inconsistent ⟨1, 1⟩ ⟨2, 1⟩) :=
    (told _ _).mpr ⟨rfl, .inl ⟨rfl, _, rfl, .inl ⟨rfl, by decide⟩, rfl⟩⟩
  refine ⟨broken, kept (fun reply answered => ?_)⟩
  rw [broken] at answered
  cases answered

end ConfigWatch
