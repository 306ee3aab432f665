import ECam.Client.Api
import ECam.Library.Run

/-!
# Sender tasks and the shared request buffer

Each API call fills the global buffer `request` and starts a task `http_get_task` that
sends whatever the buffer holds once it is connected.  The task tries again after a
failed lookup, connection or send, and also when the socket option cannot be set, which
is after the request has been written.

Every request is sent once in runs where calls do not overwrite the request of a task
that is still pending, and where no attempt fails after its write.
-/

namespace ECam.Client

open ECam.Library

/-- How one round of the loop of `http_get_task` ends. -/
inductive Attempt where
  | lookupFailed
  | socketFailed
  | connectFailed
  | sendFailed
  | timeoutFailed
  | answered
  deriving DecidableEq

/-- The client: the global buffer, the number of sender tasks, and, for the record, the
requests built by calls and those written to the server. -/
structure ClientState where
  request : List Char
  senders : Nat
  built : List (List Char)
  written : List (List Char)

/-- No call has been made. -/
def ClientState.start : ClientState where
  request := []
  senders := 0
  built := []
  written := []

/-- A step of the client: a call, or an attempt of one of the sender tasks. -/
inductive ClientEvent where
  | call (apiCall : ApiCall)
  | attempt (outcome : Attempt)

/-- An attempt of a sender task. -/
def ClientState.attempt (client : ClientState) : Attempt → ClientState
  | .timeoutFailed => { client with written := client.written ++ [client.request] }
  | .answered =>
      { client with
        written := client.written ++ [client.request]
        senders := client.senders - 1 }
  | _ => client

def ClientState.step (client : ClientState) : ClientEvent → ClientState
  | .call apiCall =>
      { client with
        request := apiCall.request
        senders := client.senders + 1
        built := client.built ++ [apiCall.request] }
  | .attempt outcome => if client.senders = 0 then client else client.attempt outcome

/-- Once no sender is left, the requests written are those built, each as often. -/
def ClientState.SentOnce (client : ClientState) : Prop :=
  client.senders = 0 → client.written.Perm client.built

/-- A call is made when no sender is pending or when it builds the request that the
buffer already holds; an attempt does not fail after its write. -/
def ClientState.Undisturbed (client : ClientState) : ClientEvent → Prop
  | .call apiCall => client.senders = 0 ∨ apiCall.request = client.request
  | .attempt outcome => outcome ≠ .timeoutFailed

/-- The requests still to be written are copies of the buffer, one for each sender. -/
def ClientState.Accounted (client : ClientState) : Prop :=
  (client.written ++ List.replicate client.senders client.request).Perm client.built

theorem ClientState.Accounted.sentOnce {client : ClientState} (accounted : client.Accounted) :
    client.SentOnce := by
  intro finished
  rw [ClientState.Accounted, finished, List.replicate_zero, List.append_nil] at accounted
  exact accounted

theorem ClientState.Accounted.call {client : ClientState} {apiCall : ApiCall}
    (accounted : client.Accounted) (undisturbed : client.Undisturbed (.call apiCall)) :
    (client.step (.call apiCall)).Accounted := by
  have pending : List.replicate client.senders client.request =
      List.replicate client.senders apiCall.request := by
    rcases undisturbed with none | same
    · rw [none, List.replicate_zero, List.replicate_zero]
    · rw [same]
  change (client.written ++ List.replicate (client.senders + 1) apiCall.request).Perm
    (client.built ++ [apiCall.request])
  rw [List.replicate_succ', ← pending, ← List.append_assoc]
  exact List.Perm.append_right _ accounted

theorem ClientState.Accounted.attempt {client : ClientState} {outcome : Attempt}
    (accounted : client.Accounted) (undisturbed : client.Undisturbed (.attempt outcome)) :
    (client.step (.attempt outcome)).Accounted := by
  rw [ClientState.step]
  split
  next => exact accounted
  next pending =>
    cases outcome with
    | timeoutFailed => exact absurd rfl undisturbed
    | answered =>
        cases count : client.senders with
        | zero => exact absurd count pending
        | succ rest =>
            rw [ClientState.Accounted, count, List.replicate_succ] at accounted
            change (client.written ++ [client.request] ++
              List.replicate (client.senders - 1) client.request).Perm client.built
            rw [count, Nat.add_sub_cancel, List.append_assoc]
            exact accounted
    | lookupFailed => exact accounted
    | socketFailed => exact accounted
    | connectFailed => exact accounted
    | sendFailed => exact accounted

/-- In every run whose steps are undisturbed, whenever no sender is left the server has
received each request that was built exactly once. -/
theorem requests_sent_once (events : List ClientEvent)
    (undisturbed : EachStep ClientState.step ClientState.Undisturbed .start events) :
    Always ClientState.step ClientState.SentOnce .start events := by
  have kept : ∀ (client : ClientState) (event : ClientEvent), client.Accounted →
      client.Undisturbed event → (client.step event).Accounted := by
    intro client event accounted condition
    cases event with
    | call apiCall => exact accounted.call condition
    | attempt outcome => exact accounted.attempt condition
  have start : ClientState.start.Accounted := List.Perm.refl _
  have along := Always.of_steps kept start undisturbed
  exact along.imp fun _ accounted => accounted.sentOnce

/-- A request that fails to connect once, followed by another one. -/
theorem requests_sent_once_sequence :
    Always ClientState.step ClientState.SentOnce .start
      [.call (.getNexttask 3), .attempt .connectFailed, .attempt .answered,
        .call (.updateStatus 3 2 1 "5.6".toList), .attempt .answered] :=
  requests_sent_once _ (by simp [EachStep, ClientState.step, ClientState.attempt,
    ClientState.Undisturbed, ClientState.start])

/-- The two calls of `app_main` back to back, both senders connecting after them: the
first request is lost and the second one is sent twice. -/
theorem requests_not_sent_once :
    ¬Always ClientState.step ClientState.SentOnce .start
      [.call (.getNexttask 3), .call (.updateStatus 3 2 1 "5.6".toList), .attempt .answered,
        .attempt .answered] := by
  intro always
  have sent := always.last rfl
  have lost : apiGetNexttask 3 ∈ [apiUpdateStatus 3 2 1 "5.6".toList,
      apiUpdateStatus 3 2 1 "5.6".toList] := by
    apply sent.mem_iff.mpr
    exact List.mem_cons_self
  have verbs : (apiGetNexttask 3).head? = (apiUpdateStatus 3 2 1 "5.6".toList).head? := by
    simp only [List.mem_cons, List.not_mem_nil, or_false, or_self] at lost
    rw [lost]
  exact absurd verbs (by decide)

end ECam.Client
