import ReleaseLag.Lagging.Request
import ReleaseLag.Proofs.Document.Base64Url
import ReleaseLag.Proofs.Document.JsonRecord
import ReleaseLag.Proofs.Except

/-!
# `ReleaseLag.Proofs.Cursor.RoundTrip`: tokens and instants, one for one

A token goes through three layers: the decimal digits of its numbers, the
members of its record and the symbols of its bytes. `read_record` puts the
first two together: the record of an instant, read against the shape, gives
the numbers of that instant. `decode_encode` adds the third.

`decode` compares the token with the one it would write, so nothing but
written tokens is accepted (`eq_encode_of_decode`).
`decode_accepts_exactly_encode` states both halves, and what follows: each
instant has a token of its own, and a document that spells a record in any
other way than `record` does is refused.
-/

set_option autoImplicit false

namespace ReleaseLag.Proofs.Cursor

open ReleaseLag.Cursor
open ReleaseLag.Document
open ReleaseLag.Text (utf8)
open ReleaseLag.Proofs.Document
open ReleaseLag.Proofs.Text (utf8_append)

/-- The record of an instant is an object with three members. -/
theorem utf8_record (t : Instant) :
    utf8 (record t) = 0x7B :: (memberBytes true ['v'] version
      ++ (memberBytes false ['s', 'e', 'c', 's'] t.secs
        ++ (memberBytes false ['n', 'a', 'n', 'o', 's'] t.nanos ++ [0x7D]))) := by
  have hfirst : "\x7b\"v\":".toList = ['{', '"', 'v', '"', ':'] := rfl
  have hsecond : ",\"secs\":".toList = [',', '"', 's', 'e', 'c', 's', '"', ':'] := rfl
  have hthird : ",\"nanos\":".toList = [',', '"', 'n', 'a', 'n', 'o', 's', '"', ':'] := rfl
  have hversion : Decimal.ofInt (version : Int) = Decimal.ofNat version := rfl
  have hnanos : Decimal.ofInt (t.nanos : Int) = Decimal.ofNat t.nanos := rfl
  unfold record
  rw [hfirst, hsecond, hthird]
  simp only [utf8_append, memberBytes, hversion, hnanos, List.append_assoc]
  rfl

/-- Seconds and nanoseconds of an instant are within the ranges of their
fields. -/
theorem holds_of_instant (t : Instant) :
    Range.i64.holds t.secs = true ∧ Range.u32.holds t.nanos = true := by
  obtain ⟨hmin, hmax, hnanos⟩ := t.admitted
  simp only [Instant.minSecs, Instant.maxSecs] at hmin hmax
  have hsecs : -9223372036854775808 ≤ t.secs ∧ t.secs ≤ 9223372036854775807 := by omega
  have hnanos : 0 ≤ (t.nanos : Int) ∧ (t.nanos : Int) ≤ 4294967295 := by omega
  exact ⟨Bool.and_eq_true_iff.mpr ⟨decide_eq_true hsecs.1, decide_eq_true hsecs.2⟩,
    Bool.and_eq_true_iff.mpr ⟨decide_eq_true hnanos.1, decide_eq_true hnanos.2⟩⟩

/-- The members of an instant's record are read in three steps. -/
theorem members_record (t : Instant) (fuel : Nat) :
    Json.members shape (fuel + 4) [] true (memberBytes true ['v'] version
        ++ (memberBytes false ['s', 'e', 'c', 's'] t.secs
          ++ (memberBytes false ['n', 'a', 'n', 'o', 's'] t.nanos ++ [0x7D])))
      = .ok ([.integer version, .integer t.secs, .integer t.nanos], []) := by
  obtain ⟨hsecs, hnanos⟩ := holds_of_instant t
  rw [members_integer .u8 (isVerbatim_of_all (by decide)) rfl rfl (by decide) (by decide)
      (by decide) (endsNumber_memberBytes _ _ _),
    members_integer .i64 (isVerbatim_of_all (by decide)) rfl rfl hsecs (by decide)
      (by decide) (endsNumber_memberBytes _ _ _),
    members_integer .u32 (isVerbatim_of_all (by decide)) rfl rfl hnanos (by decide)
      (by decide) (endsNumber_close []),
    members_close]
  rfl

/-- The record of an instant has the values of that instant. -/
theorem read_record (t : Instant) :
    shape.read (utf8 (record t))
      = .ok [.integer version, .integer t.secs, .integer t.nanos] := by
  have hmembers := members_record t
  rw [utf8_record]
  generalize hbody : memberBytes true ['v'] version ++ _ = body at hmembers ⊢
  -- Every member has four bytes at least, so the fuel is enough for all steps.
  have hlength : 3 ≤ body.length := by
    rw [← hbody]
    simp only [memberBytes, List.length_append]
    simp
    omega
  have hfuel : body.length + 1 = body.length - 3 + 4 := by omega
  rw [Json.Shape.read, skipSpace_cons (by decide)]
  simp only [hfuel, hmembers]
  rfl

/-- The values of an instant's record are that instant. -/
theorem instantOf_cells (t : Instant) :
    instantOf [.integer version, .integer t.secs, .integer t.nanos] = .ok t := by
  simp [instantOf, Instant.ofUnix?_self]

/-- A token that was written is read back. -/
theorem decode_encode (t : Instant) : decode (encode t) = .ok t := by
  have hbytes := Document.decode_encode (utf8 (record t))
  have hread := read_record t
  simp [decode, encode, hbytes, hread, instantOf_cells]

/-- A token that is read is the one that would be written. -/
theorem eq_encode_of_decode {token : Text} {t : Instant} (h : decode token = .ok t) :
    token = encode t := by
  simp only [decode, bind_eq_ok_iff] at h
  obtain ⟨bytes, -, cells, -, u, -, h⟩ := h
  split at h
  · next heq =>
    cases h
    exact heq.symm
  · cases h

/-- Instants with one token are the same. -/
theorem encode_injective {t u : Instant} (h : encode t = encode u) : t = u := by
  have hread := decode_encode t
  rw [h, decode_encode] at hread
  exact (Except.ok.inj hread).symm

/-- A text that no instant is written as is refused. -/
theorem exists_fault_of_ne {token : Text} (h : ∀ t, token ≠ encode t) :
    ∃ fault, decode token = .error fault := by
  cases hread : decode token with
  | error fault => exact ⟨fault, rfl⟩
  | ok t => exact absurd (eq_encode_of_decode hread) (h t)

/-- A request whose token is refused is refused for its cursor. -/
theorem cursor_of_fault {r : Request} {token : Text} {fault : Fault} (htoken : r.token = some token)
    (hfault : decode token = .error fault) : r.cursor = .error (.invalidCursor fault) := by
  simp [Request.cursor, htoken, hfault]

/-- Reading undoes writing on every pair of seconds and nanoseconds that is an
instant, leap seconds and those before 1970 included, and accepts nothing
else:

1. a written token is read back;
2. a token that is read is, character for character, the written one;
3. different instants have different tokens;
4. any other text is refused, and the fault is one of the cursor;
5. so is any document in symbols that is not, byte for byte, the record of an
   instant. -/
theorem decode_accepts_exactly_encode :
    (∀ (secs : Int) (nanos : Nat) (admitted : Instant.Admits secs nanos),
        decode (encode ⟨secs, nanos, admitted⟩) = .ok ⟨secs, nanos, admitted⟩)
      ∧ (∀ (token : Text) (t : Instant), decode token = .ok t → token = encode t)
      ∧ (∀ t u : Instant, t ≠ u → encode t ≠ encode u)
      ∧ (∀ token : Text, (∀ t, token ≠ encode t) →
          ∃ fault, decode token = .error fault
            ∧ ∀ r : Request, r.token = some token → r.cursor = .error (.invalidCursor fault))
      ∧ ∀ document : Bytes, (∀ t, document ≠ utf8 (record t)) →
          ∃ fault, decode (Base64Url.encode document) = .error fault := by
  refine ⟨fun secs nanos admitted => decode_encode _, fun token t => eq_encode_of_decode,
    fun t u hne heq => hne (encode_injective heq), fun token hne => ?_, fun document hne => ?_⟩
  · obtain ⟨fault, hfault⟩ := exists_fault_of_ne hne
    exact ⟨fault, hfault, fun r htoken => cursor_of_fault htoken hfault⟩
  · -- The symbols of another document are another text.
    exact exists_fault_of_ne fun t heq => hne t (Document.encode_injective heq)

/-- The token of the leap second at the end of 2016. -/
example : encode ⟨1483228799, 1500000000, by decide⟩
    = "eyJ2IjoxLCJzZWNzIjoxNDgzMjI4Nzk5LCJuYW5vcyI6MTUwMDAwMDAwMH0".toList := by
  decide

end ReleaseLag.Proofs.Cursor
