import ConfigWatch.Proofs.Client.Storing

/-!
# Answers to reads

A read is answered with what the record of the document holds, with what is kept of the document
at the version asked for, or by the server.
-/

set_option autoImplicit false

namespace ConfigWatch

namespace Occurrence

/-- The answer that a read came to in a section, with what was asked for. -/
def answer? (occurrence : Occurrence) : Option (PendingRead × ReadReply) :=
  match occurrence.act with
  | .beginRead space key pinned =>
    match (({ occurrence.before with closed := false } : Client).beginRead space key pinned).1 with
    | .done (.ok reply) => some (⟨space, key, pinned⟩, reply)
    | _ => none
  | .finishRead pending response =>
    match (occurrence.before.finishRead pending response).1 with
    | .ok reply => some (pending, reply)
    | .error _ => none
  | _ => none

/-- Where the answer to a read comes from. -/
inductive Origin (occurrence : Occurrence) (asked : PendingRead) : ReadReply → Prop where
  | held {record : Record} {version : Version} {content : Content} : asked.pinned = none →
      occurrence.before.cache.recordAt? asked.space asked.key = some record →
      record.status = some .ok → record.latest = some (version, content) →
      Origin occurrence asked { status := .ok, version, content := some content }
  | kept {version : Version} {content : Content} : asked.pinned = some version →
      occurrence.before.cache.contentAt? asked.space version asked.key = some content →
      Origin occurrence asked { status := .ok, version, content := some content }
  | served {answer : ReadResponse} {reply : ReadReply} :
      occurrence.act = .finishRead asked (.ok answer) →
      occurrence.before.Accepts asked answer reply → Origin occurrence asked reply

private theorem origin_of_lookup {occurrence : Occurrence} {space : NamespaceKey}
    {key : DocumentKey} {pinned : Option Version} {reply : ReadReply} {after : Client}
    (found : ({ occurrence.before with closed := false } : Client).Lookup space key pinned reply
      after) : occurrence.Origin ⟨space, key, pinned⟩ reply := by
  cases found with
  | latest found good latest => exact .held rfl found good latest
  | pinned read =>
    obtain ⟨_, kept, same⟩ := Option.map_eq_some_iff.mp read
    cases same
    exact .kept rfl kept

theorem origin {occurrence : Occurrence} {asked : PendingRead} {reply : ReadReply}
    (answered : occurrence.answer? = some (asked, reply)) : occurrence.Origin asked reply := by
  obtain ⟨client, act⟩ := occurrence
  cases act with
  | beginRead space key pinned =>
    simp only [answer?] at answered
    split at answered
    · next done =>
      cases answered
      simp only [Client.beginRead, Client.ensureOpen, Bool.false_eq_true, if_false] at done
      split at done
      · next cached =>
        cases done
        exact origin_of_lookup (Client.lookup cached)
      · cases done
    · cases answered
  | finishRead pending response =>
    simp only [answer?] at answered
    split at answered
    · next accepted =>
      cases answered
      cases response with
      | error cause => cases accepted
      | ok answer => exact .served rfl (Client.accepts accepted)
    · cases answered
  | _ => cases answered

end Occurrence

/-- An answer tells a content if and only if it is good. -/
def ReadReply.IsComplete (reply : ReadReply) : Prop :=
  reply.status.isOk = true ↔ reply.content.isSome = true

namespace Occurrence.Origin

variable {occurrence : Occurrence} {asked : PendingRead} {reply : ReadReply}

theorem complete (origin : occurrence.Origin asked reply) : reply.IsComplete := by
  cases origin with
  | held | kept => exact ⟨fun _ => rfl, fun _ => rfl⟩
  | served _ accepts =>
    refine ⟨fun good => ?_, fun told => ?_⟩
    · obtain ⟨content, held⟩ := accepts.complete good
      rw [held]
      rfl
    · obtain ⟨content, held⟩ := Option.isSome_iff_exists.mp told
      exact (accepts.content content held).1

/-- A good answer to a pinned read is of the version asked for. -/
theorem pinned (origin : occurrence.Origin asked reply) {version : Version}
    (pin : asked.pinned = some version) (good : reply.status.isOk = true) :
    reply.version = version := by
  cases origin with
  | held unpinned => rw [unpinned] at pin; cases pin
  | kept same => rw [same] at pin; exact Option.some.inj pin
  | served _ accepts => exact accepts.pinned version pin good

end Occurrence.Origin

end ConfigWatch
