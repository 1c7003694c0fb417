import Readback.Proofs.Target.Transport
import Readback.Proofs.Wire.Exactness

/-!
# A value is read as it was written

Both ends of the wire write bodies, and each reads what the other wrote.

- the server takes a body for a value, and the client an answer, exactly if the value stands there in decimal
  (`Server.accept_integerBody_iff`, `decode_integerBody_iff`), so no integer is taken for another one at either end;
- the answer that shows a value is read as that value (`decode_shown`);
- over a reliable network, a read behind a write gives the value written, unless that was dropped
  (`Serves.read_after_write`);
- **`value_echoed`**: all this for every 64-bit integer, the lowest and the highest among them.
-/

namespace Readback

open Http (Network Request Url)

namespace Server

/-- An accepted value was read from the body. -/
theorem exists_body_of_accept {r : Request} {v : Int64} (h : accept r = .ok v) :
    ∃ rest, valueBody.body r.body = .ok (v, rest) := by
  unfold accept at h
  split at h
  · cases h
  · split at h
    · cases h
    · split at h
      · next w rest hread =>
        cases h
        exact ⟨rest, hread⟩
      · cases h
      · cases h

/-- **An integer is taken for a value exactly if it is that value.** -/
theorem accept_integerBody_iff {r : Request} {i : Int} {v : Int64} (hdeclares : declaresJson r.headers = true)
    (hbody : r.body = Wire.integerBody i) : accept r = .ok v ↔ v.toInt = i := by
  constructor
  · intro h
    obtain ⟨rest, hread⟩ := exists_body_of_accept h
    rw [hbody, ← List.append_nil (Wire.integerBody i)] at hread
    exact ((Wire.Form.body_integerBody_iff field_valueBody).mp hread).1
  · rintro rfl
    exact accept_encode field_valueBody hdeclares (hbody.trans (Wire.Form.encode_eq field_valueBody v).symm)

end Server

namespace HttpTarget

variable {σ : Type} {net : Network σ} {store : σ → Server.Store} {base : String} {url : Url}

/-- **An answer is read as a value exactly if it has that value.** -/
theorem decode_integerBody_iff {i : Int} {v : Int64} : decode (Wire.integerBody i) = .ok v ↔ v.toInt = i := by
  rw [← Wire.Form.wholeBody_integerBody_iff field_valueBody, decode]
  cases valueBody.wholeBody (Wire.integerBody i) with
  | ok w => simp only [Except.ok.injEq]
  | error problem => simp only [reduceCtorEq]

/-- The answer to a request to see the value has it in decimal, and the client reads it as that value. -/
theorem decode_shown {s : Server.Store} {r : Request} {v : Int64} (hvalue : s.value = some v)
    (hmethod : r.method = "GET") (hpath : r.path = "/value") :
    (s.handle r).1.status = 200 ∧ (s.handle r).1.body = Wire.integerBody v.toInt ∧
      decode (s.handle r).1.body = .ok v := by
  obtain ⟨hstatus, hbody, -⟩ := s.handle_get_some hmethod hpath hvalue
  rw [Wire.Form.encode_eq Server.field_valueBody] at hbody
  refine ⟨hstatus, hbody, ?_⟩
  rw [hbody]
  exact decode_integerBody_iff.mpr rfl

/-- A read gives the value that the server holds. -/
theorem Serves.read_of_some (h : Serves net store base url) {v : Int64} {s : σ} (hvalue : (store s).value = some v) :
    ((adapter net base).read s).answer = .ok v := by
  rw [(h.read_spec s).1, hvalue]
  rfl

/-- **A read behind a write gives the value written**, unless the server dropped the write. -/
theorem Serves.read_after_write (h : Serves net store base url) (v : Int64) {s : σ}
    (hkept : (store s).dropWrite ≠ some (store s).writes) :
    ((adapter net base).read ((adapter net base).write v s).state).answer = .ok v := by
  apply h.read_of_some
  rw [(h.write_spec v s).2, Server.Store.value_put, if_neg hkept]

/-- **A value is read as it was written**, whichever 64-bit integer it is. The body that the client sends has the value
in decimal, and the server takes it for that value. So has the body with which the server shows the value, and the
client reads it as that value. No other integer is taken for the value at either end. Hence, over a reliable network, a
read gives the value that the server holds, and a write that the server does not drop succeeds and is read back. -/
theorem value_echoed (v : Int64) :
    (∀ (base : String) (url : Url), (putRequest base v).body = Wire.integerBody v.toInt ∧
      Server.accept (sent (putRequest base v) url) = .ok v) ∧
    (∀ (s : Server.Store) (r : Request), s.value = some v → r.method = "GET" → r.path = "/value" →
      (s.handle r).1.status = 200 ∧ (s.handle r).1.body = Wire.integerBody v.toInt ∧
        decode (s.handle r).1.body = .ok v) ∧
    (∀ i : Int, (decode (Wire.integerBody i) = .ok v ↔ v.toInt = i) ∧
      ∀ r : Request, Server.declaresJson r.headers = true → r.body = Wire.integerBody i →
        (Server.accept r = .ok v ↔ v.toInt = i)) ∧
    ∀ {σ : Type} {net : Network σ} {store : σ → Server.Store} {base : String} {url : Url},
      Serves net store base url → ∀ s : σ,
        ((store s).value = some v → ((adapter net base).read s).answer = .ok v) ∧
        ((store s).dropWrite ≠ some (store s).writes →
          ((adapter net base).write v s).answer = .ok () ∧
            ((adapter net base).read ((adapter net base).write v s).state).answer = .ok v) := by
  refine ⟨fun base url => ⟨Wire.Form.encode_eq field_valueBody v, ?_⟩, ?_, fun i => ⟨decode_integerBody_iff, ?_⟩, ?_⟩
  · exact Server.accept_encode field_valueBody Server.declaresJson_plain rfl
  · intro s r hvalue hmethod hpath
    exact decode_shown hvalue hmethod hpath
  · intro r hdeclares hbody
    exact Server.accept_integerBody_iff hdeclares hbody
  · intro σ net store base url h s
    refine ⟨fun hvalue => h.read_of_some hvalue, fun hkept => ⟨?_, h.read_after_write v hkept⟩⟩
    exact (h.write_spec v s).1

/-- The lowest integer crosses the wire and comes back, from a server that is to drop a later write; the integer below
it is not taken for it at either end. -/
theorem value_echoed_lowest :
    (putRequest localBase Int64.minValue).body = Text.ascii "\x7b\"value\":-9223372036854775808\x7d" ∧
      Server.accept (sent (putRequest localBase Int64.minValue) (localUrl "/value")) = .ok Int64.minValue ∧
      decode (Server.Store.handle { value := some Int64.minValue } (getRequest "/value")).1.body =
        .ok Int64.minValue ∧
      decode (Wire.integerBody (-9223372036854775809)) ≠ .ok Int64.minValue ∧
      Server.accept { putRequest localBase 0 with body := Wire.integerBody (-9223372036854775809) } ≠
        .ok Int64.minValue ∧
      ((adapter referenceNetwork localBase).write Int64.minValue { dropWrite := some 1 }).answer = .ok () ∧
      ((adapter referenceNetwork localBase).read
        ((adapter referenceNetwork localBase).write Int64.minValue { dropWrite := some 1 }).state).answer =
          .ok Int64.minValue := by
  obtain ⟨hsent, hshown, hexact, hechoed⟩ := value_echoed Int64.minValue
  obtain ⟨hbody, haccept⟩ := hsent localBase (localUrl "/value")
  obtain ⟨hdecode, hserver⟩ := hexact (-9223372036854775809)
  have hbelow : Int64.minValue.toInt ≠ -9223372036854775809 := by decide
  refine ⟨?_, haccept, ?_, fun h => hbelow (hdecode.mp h), fun h => hbelow ?_, ?_⟩
  · rw [hbody]
    decide +kernel
  · exact (hshown _ _ rfl rfl (by decide +kernel)).2.2
  · exact (hserver _ Server.declaresJson_plain rfl).mp h
  · exact (hechoed serves_reference { dropWrite := some 1 }).2 (by decide)

end HttpTarget

end Readback
