import Readback.Proofs.Wire.RoundTrip
import Readback.Target.Http

/-!
# A client and a server over a reliable network

What the calls of the client do to the server, when every request reaches it and every answer comes back (`Serves`), as
on the network of the reference target (`serves_reference`).

- the server accepts the body that carries a value as that value (`accept_encode`), so a `PUT` is a write, and a `GET`
  shows the value or finds nothing (`handle_put`, `handle_get_some`, `handle_get_none`);
- connecting succeeds and leaves the server as it is (`Serves.connect`);
- **`Serves.write_spec`**: a write of the client is one write of the server, for every 64-bit integer;
- **`Serves.read_spec`**: a read of the client gives what the server holds.
-/

namespace Readback

open Http (Network Request Response Url)

/-! ## What the server does -/

namespace Server

theorem Store.value_put (s : Store) (v : Int64) :
    (s.put v).value = if s.dropWrite = some s.writes then s.value else some v := by
  rw [Store.put]
  split <;> rfl

@[simp] theorem Store.writes_put (s : Store) (v : Int64) : (s.put v).writes = s.writes + 1 := by
  rw [Store.put]
  split <;> rfl

@[simp] theorem Store.dropWrite_put (s : Store) (v : Int64) : (s.put v).dropWrite = s.dropWrite := by
  rw [Store.put]
  split <;> rfl

theorem field_valueBody : valueBody.field = "value" := rfl

theorem declaresJson_plain : declaresJson [("content-type", "application/json")] = true := by
  decide +kernel

/-- The body of a value, declared as JSON, is accepted as that value, in whichever form with that field it is
written. -/
theorem accept_encode {f : Wire.Form} (hf : f.field = "value") {r : Request} {v : Int64}
    (hdeclares : declaresJson r.headers = true) (hbody : r.body = f.encode v) : accept r = .ok v := by
  have hlength : ¬ maxBody < r.body.length := by
    have hle := f.length_encode_le hf v
    rw [hbody, maxBody]
    omega
  have hread := Wire.Form.body_encode hf field_valueBody v []
  rw [List.append_nil, ← hbody] at hread
  simp only [accept, hdeclares, hread, if_neg hlength, Bool.not_true, Bool.false_eq_true, if_false]

variable {r : Request}

/-- A `PUT` of an accepted value is a write. -/
theorem Store.handle_put (s : Store) {v : Int64} (hmethod : r.method = "PUT") (hpath : r.path = "/value")
    (haccept : accept r = .ok v) : (s.handle r).1.status = 204 ∧ (s.handle r).2 = s.put v := by
  have hroute : Route.ofPath? r.path = some .value := by rw [hpath]; rfl
  simp [Store.handle, hroute, Route.answer, hmethod, haccept, empty, Http.respond]

/-- A `GET` shows the value and changes nothing. -/
theorem Store.handle_get_some (s : Store) {v : Int64} (hmethod : r.method = "GET") (hpath : r.path = "/value")
    (hvalue : s.value = some v) :
    (s.handle r).1.status = 200 ∧ (s.handle r).1.body = valueBody.encode v ∧ (s.handle r).2 = s := by
  have hroute : Route.ofPath? r.path = some .value := by rw [hpath]; rfl
  simp [Store.handle, hroute, Route.answer, hmethod, Store.report, hvalue, Http.respond]

/-- A `GET` finds nothing as long as nothing is stored. -/
theorem Store.handle_get_none (s : Store) (hmethod : r.method = "GET") (hpath : r.path = "/value")
    (hvalue : s.value = none) :
    (s.handle r).1.status = 404 ∧ (s.handle r).1.reason = "Not Found" ∧ (s.handle r).2 = s := by
  have hroute : Route.ofPath? r.path = some .value := by rw [hpath]; rfl
  simp [Store.handle, hroute, Route.answer, hmethod, Store.report, hvalue, json, Http.respond, Http.reasonOf]

/-- The server is up, and being asked changes nothing. -/
theorem Store.handle_health (s : Store) (hmethod : r.method = "GET") (hpath : r.path = "/health") :
    (s.handle r).1.status = 200 ∧ (s.handle r).2 = s := by
  have hroute : Route.ofPath? r.path = some .health := by rw [hpath]; rfl
  simp [Store.handle, hroute, Route.answer, hmethod, healthy, json, Http.respond]

end Server

/-! ## Reliable transport -/

namespace HttpTarget

variable {σ : Type} {net : Network σ} {store : σ → Server.Store} {base path : String} {url : Url}

/-- A path of the target has an address, and every request for it reaches the server and is answered by it. The server
is what the state of the network holds of it. -/
structure Reaches (net : Network σ) (store : σ → Server.Store) (base path : String) (url : Url) : Prop where
  parses : Url.parse (base ++ path) = .ok url
  fits : url.fitsRequest = true
  asks : Http.pathOf url.resource = path
  answered (r : Request) (s : σ) : (net.send url r s).1 = .answered ((store s).handle r).1
  handled (r : Request) (s : σ) : store (net.send url r s).2 = ((store s).handle r).2

/-- The network reaches both paths of the target, its value at the given address. -/
structure Serves (net : Network σ) (store : σ → Server.Store) (base : String) (url : Url) : Prop where
  value : Reaches net store base "/value" url
  health : ∃ url', Reaches net store base "/health" url'

/-- The base of a server on this machine. -/
def localBase : String := "http://[::1]:3000"

/-- An address there. -/
def localUrl (path : String) : Url := ⟨"http", "[::1]", some 3000, path, "", ""⟩

/-- The network of the reference target is reliable. -/
theorem serves_reference : Serves referenceNetwork id localBase (localUrl "/value") where
  value := ⟨by rfl, by decide, by decide, fun _ _ => rfl, fun _ _ => rfl⟩
  health := ⟨localUrl "/health", by rfl, by decide, by decide, fun _ _ => rfl, fun _ _ => rfl⟩

/-- The request as the server gets it. -/
def sent (r : Request) (url : Url) : Request := { r with uri := url.resource }

/-- A request is answered by the server, and the status of its answer is checked. -/
theorem Reaches.request (h : Reaches net store base path url) {r : Request} (huri : r.uri = base ++ path) (s : σ)
    (hstatus : ((store s).handle (sent r url)).1.status < 300 ∨ 400 ≤ ((store s).handle (sent r url)).1.status) :
    (Http.request net r s).1 = Http.checkStatus ((store s).handle (sent r url)).1 url ∧
      store (Http.request net r s).2 = ((store s).handle (sent r url)).2 := by
  have hsend : net.send url (sent r url) s =
      (.answered ((store s).handle (sent r url)).1, (net.send url (sent r url) s).2) :=
    Prod.ext (h.answered _ s) rfl
  -- No redirection is followed, so the first answer is the one that counts.
  have hstay : Http.redirected? ((store s).handle (sent r url)).1.status r.method r.body = none := by
    rw [Http.redirected?, if_neg (by omega), if_neg (by omega)]
  have hfollow : Http.follow net 10 url r s =
      (.ok (((store s).handle (sent r url)).1, url), (net.send url (sent r url) s).2) := by
    rw [sent] at hsend hstay ⊢
    rw [Http.follow, h.fits, hsend]
    simp [hstay]
  rw [Http.request, huri, h.parses]
  simp only [hfollow]
  exact ⟨rfl, h.handled _ s⟩

/-- A request that succeeds. -/
theorem Reaches.request_ok (h : Reaches net store base path url) {r : Request} (huri : r.uri = base ++ path) (s : σ)
    (hstatus : ((store s).handle (sent r url)).1.status < 300) :
    (Http.request net r s).1 = .ok ((store s).handle (sent r url)).1 ∧
      store (Http.request net r s).2 = ((store s).handle (sent r url)).2 := by
  obtain ⟨hanswer, hafter⟩ := h.request huri s (.inl hstatus)
  rw [Http.checkStatus, if_neg (by omega), if_neg (by omega)] at hanswer
  exact ⟨hanswer, hafter⟩

/-- Why a read fails that finds nothing stored. -/
def notFound (url : Url) : String := "HTTP status client error (404 Not Found)" ++ Http.forUrl url

/-- A request for what is not there. -/
theorem Reaches.request_notFound (h : Reaches net store base path url) {r : Request} (huri : r.uri = base ++ path)
    (s : σ) (hstatus : ((store s).handle (sent r url)).1.status = 404)
    (hreason : ((store s).handle (sent r url)).1.reason = "Not Found") :
    (Http.request net r s).1 = .error [notFound url] ∧
      store (Http.request net r s).2 = ((store s).handle (sent r url)).2 := by
  obtain ⟨hanswer, hafter⟩ := h.request huri s (.inr (by omega))
  rw [Http.checkStatus, hstatus, hreason] at hanswer
  exact ⟨hanswer, hafter⟩

/-! ## What the client does -/

theorem field_valueBody : valueBody.field = "value" := rfl

/-- Connecting succeeds and changes nothing at the server. -/
theorem Serves.connect (h : Serves net store base url) (s : σ) :
    (connect net base s).1 = .ok () ∧ store (connect net base s).2 = store s := by
  obtain ⟨url', hhealth⟩ := h.health
  obtain ⟨hstatus, hstore⟩ := (store s).handle_health (r := sent (getRequest (healthUrl base)) url') rfl hhealth.asks
  obtain ⟨hanswer, hafter⟩ := hhealth.request_ok (r := getRequest (healthUrl base)) rfl s (by omega)
  simp only [HttpTarget.connect]
  rw [hanswer]
  exact ⟨rfl, hafter.trans hstore⟩

/-- **A write of the client is a write of the server.** -/
theorem Serves.write_spec (h : Serves net store base url) (v : Int64) (s : σ) :
    ((adapter net base).write v s).answer = .ok () ∧
      store ((adapter net base).write v s).state = (store s).put v := by
  obtain ⟨hstatus, hstore⟩ := (store s).handle_put (r := sent (putRequest base v) url) rfl h.value.asks
    (Server.accept_encode field_valueBody Server.declaresJson_plain rfl)
  obtain ⟨hanswer, hafter⟩ := h.value.request_ok (r := putRequest base v) rfl s (by omega)
  refine ⟨?_, hafter.trans hstore⟩
  simp only [adapter]
  rw [hanswer]
  rfl

/-- What a read of a cell gives: the value, or an error of the given cause if there is none. -/
def readAnswer (missing : String) : Option Int64 → Except AdapterError Int64
  | some v => .ok v
  | none => .error ⟨missing⟩

/-- **A read of the client gives what the server holds**, and changes nothing there. -/
theorem Serves.read_spec (h : Serves net store base url) (s : σ) :
    ((adapter net base).read s).answer = readAnswer (notFound url) (store s).value ∧
      store ((adapter net base).read s).state = store s := by
  cases hvalue : (store s).value with
  | some v =>
    obtain ⟨hstatus, hbody, hstore⟩ :=
      (store s).handle_get_some (r := sent (getRequest (valueUrl base)) url) rfl h.value.asks hvalue
    obtain ⟨hanswer, hafter⟩ := h.value.request_ok (r := getRequest (valueUrl base)) rfl s (by omega)
    have hdecode : decode ((store s).handle (sent (getRequest (valueUrl base)) url)).1.body = .ok v := by
      rw [hbody, decode, Wire.Form.wholeBody_encode Server.field_valueBody field_valueBody]
    refine ⟨?_, hafter.trans hstore⟩
    simp only [adapter]
    rw [hanswer]
    simp only [Except.bind, hdecode]
    rfl
  | none =>
    obtain ⟨hstatus, hreason, hstore⟩ :=
      (store s).handle_get_none (r := sent (getRequest (valueUrl base)) url) rfl h.value.asks hvalue
    obtain ⟨hanswer, hafter⟩ := h.value.request_notFound (r := getRequest (valueUrl base)) rfl s hstatus hreason
    refine ⟨?_, hafter.trans hstore⟩
    simp only [adapter]
    rw [hanswer]
    rfl

end HttpTarget

end Readback
