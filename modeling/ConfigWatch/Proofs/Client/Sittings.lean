import ConfigWatch.Proofs.Client.Sections

/-!
# Sessions along a run

A session has one read under way at a time, while anything else goes on at its client. A read of a
document that was read before, or by a closed client, is settled without a section. Any other read
has a section in which it begins and, if the server is asked, one in which it ends, unless it is
given up.
-/

set_option autoImplicit false

namespace ConfigWatch

namespace Session

/-- What a session told of a read, and the version that it was pinned to then. -/
structure Result where
  key : DocumentKey
  outcome : Except Error Reply
  pinned : Option Version

end Session

/-- A session with the read that waits for the server, and what was told of its reads so far. -/
structure Sitting where
  session : Session
  waiting : Option PendingRead := none
  results : List Session.Result := []

namespace Sitting

/-- The sitting when a read came to an outcome. -/
def conclude (sitting : Sitting) (key : DocumentKey) (outcome : Except Error Session.Reply)
    (session : Session) : Sitting where
  session
  results := sitting.results ++ [⟨key, outcome, session.pinned⟩]

def begin (sitting : Sitting) (client : Client) (key : DocumentKey) : Sitting :=
  match sitting.session.beginRead client key with
  | (.done outcome, session, _) => sitting.conclude key outcome session
  | (.ask _ pending, session, _) => { sitting with session, waiting := some pending }

def finish (sitting : Sitting) (client : Client) (pending : PendingRead)
    (response : Except Error ReadResponse) : Sitting :=
  let result := sitting.session.finishRead client pending response
  sitting.conclude pending.key result.1 result.2.1

/-- The section in which a read begins. -/
def beginning (sitting : Sitting) (key : DocumentKey) : Section :=
  .beginRead sitting.session.space key sitting.session.pinned

end Sitting

/-- A session of a namespace along a run. -/
inductive Sits (start : Client) (space : NamespaceKey) :
    List Occurrence → Client → Sitting → Prop where
  | opens {history : List Occurrence} {client : Client} :
      Run start history client → Sits start space history client { session := { space } }
  | elsewhere {history : List Occurrence} {client : Client} {sitting : Sitting} (act : Section) :
      Sits start space history client sitting →
      Sits start space (history ++ [⟨client, act⟩]) (client.perform act).2 sitting
  | alone {history : List Occurrence} {client : Client} {sitting : Sitting} (key : DocumentKey) :
      (sitting.session.contents.get? key).isSome = true ∨ client.closed = true →
      sitting.waiting = none → Sits start space history client sitting →
      Sits start space history client (sitting.begin client key)
  | begins {history : List Occurrence} {client : Client} {sitting : Sitting} (key : DocumentKey) :
      sitting.session.contents.get? key = none → sitting.waiting = none →
      Sits start space history client sitting →
      Sits start space (history ++ [⟨client, sitting.beginning key⟩])
        (client.perform (sitting.beginning key)).2
        (sitting.begin { client with closed := false } key)
  | ends {history : List Occurrence} {client : Client} {sitting : Sitting}
      {pending : PendingRead} (response : Except Error ReadResponse) :
      sitting.waiting = some pending → Sits start space history client sitting →
      Sits start space (history ++ [⟨client, .finishRead pending response⟩])
        (client.perform (.finishRead pending response)).2
        (sitting.finish client pending response)
  | abandons {history : List Occurrence} {client : Client} {sitting : Sitting} :
      Sits start space history client sitting →
      Sits start space history client { sitting with waiting := none }

theorem Sits.run {start client : Client} {space : NamespaceKey} {history : List Occurrence}
    {sitting : Sitting} (sits : Sits start space history client sitting) :
    Run start history client := by
  induction sits with
  | opens run => exact run
  | elsewhere act _ run => exact run.step act
  | alone _ _ _ _ run => exact run
  | begins _ _ _ _ run => exact run.step _
  | ends _ _ _ run => exact run.step _
  | abandons _ run => exact run

end ConfigWatch
