/-
  The framework between the network and the service.

  The service does not read requests and does not send replies.  What does is no part of this
  library, so it is a parameter: a `Framework` is any way to receive requests and to send replies.

  1. **Receiving.**  A request that is meant for an endpoint, by its path and method, and that carries
     what the endpoint asks for, is a query.  Any other request is answered by the framework itself,
     out of nothing but the request: an unknown path, a wrong method, a faulty document, a page that
     the framework brings along.

  2. **Sending.**  A reply is sent as its document, or not at all where that cannot be encoded.  What
     else goes with it is no concern of the service.

  The framework gets to see requests and replies, and never the tree.

  What is said of the service as a whole is said for every framework that keeps its promises, and these
  are few (`Framework.Lawful`): a query comes in on the path of its endpoint, a reply goes out with its
  status and its document or fails to be encoded, and a request can be repeated without writing.  The
  same goes for the system under the service (`Host.Lawful`).
-/
import ClassLift.Service

namespace ClassLift.Service

/-- What a framework makes of a request. -/
inductive Received (Response : Type)
  /-- A query for the service. -/
  | query (q : Query)
  /-- An answer by the framework itself, or the failure to send it. -/
  | answered (result : Except Failure Response)

/-- A way to receive requests and to send replies. -/
structure Framework (Incoming Response : Type) where
  /-- The path that a request names. -/
  path : Incoming → Text
  receive : Incoming → Received Response
  /-- The response to a request, given the reply of the service. -/
  send : Incoming → Reply → Except Failure Response
  status : Response → Nat
  /-- The document of a response, if it has one. -/
  document? : Response → Option Json
  /-- The same request with the member `write` of its document set to false. -/
  withoutWriting : Incoming → Incoming

/-- What a framework is trusted for. -/
structure Framework.Lawful {Incoming Response : Type} (F : Framework Incoming Response) : Prop where
  /-- An endpoint is asked by requests that name its path. -/
  path_of_query : ∀ i q, F.receive i = .query q → F.path i = q.path
  /-- A reply is sent with its status. -/
  status_of_send : ∀ i reply response, F.send i reply = .ok response →
    F.status response = reply.status
  /-- A reply is sent as its document. -/
  document_of_send : ∀ i reply response, F.send i reply = .ok response →
    F.document? response = some reply.document
  /-- A reply is sent if its document can be written and encoded, and only then. -/
  exists_send_iff : ∀ i reply,
    (∃ response, F.send i reply = .ok response) ↔ reply.document.isSendable = true
  /-- The fields of an extraction are read one by one, so another value of `write` changes nothing
      else. -/
  receive_withoutWriting : ∀ i text r given write,
    F.receive i = .query (.extract text r given write) →
      F.receive (F.withoutWriting i) = .query (.extract text r given false)

/-- What the system under the service is trusted for. -/
structure Host.Lawful (host : Host) : Prop where
  /-- A text is a path as it stands. -/
  path?_of_whole : ∀ s, s.whole = true → host.path? s = some s.text
  /-- A place that has a text for its name is told by that text. -/
  told_of_whole : ∀ target place, (host.told target place).whole = true →
    (host.told target place).text = placeText place

/-- The tree and the response after a request; no response if something fails on the way. -/
def Framework.serve {Incoming Response : Type} (F : Framework Incoming Response) (host : Host)
    (s : Settings) (t : FileTree) (i : Incoming) : FileTree × Except Failure Response :=
  match F.receive i with
  | .answered result => (t, result)
  | .query q =>
    let (t, result) := answer host s t q
    (t, result.bind (F.send i))

end ClassLift.Service
