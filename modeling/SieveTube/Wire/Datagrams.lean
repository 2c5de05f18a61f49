import Mathlib.Data.Nat.Digits.Lemmas
import Mathlib.Tactic.Ring
import SieveTube.Mesh.Protocol

/-!
# The binary form of datagram headers

A number in a fixed count of bytes and a text behind its length are read back
from exactly the bytes they were written as, whatever follows.  A header is a
row of them, so encoding and decoding are inverse to each other.
-/

namespace SieveTube

section Numbers

@[simp]
theorem length_toBeBytes (count value : Nat) :
    (toBeBytes count value).length = count := by
  induction count with
  | zero => rfl
  | succ count ih => rw [toBeBytes, List.length_cons, ih]

variable (bytes : List UInt8)

theorem fromBeBytes_eq :
    fromBeBytes bytes = Nat.ofDigits 256 (bytes.map UInt8.toNat).reverse := by
  rw [Nat.ofDigits_eq_foldr, List.foldr_reverse, List.foldl_map, fromBeBytes]
  congr
  funext value byte
  rw [Nat.cast_id, Nat.add_comm, Nat.mul_comm]

theorem fromBeBytes_cons (byte : UInt8) (bytes : List UInt8) :
    fromBeBytes (byte :: bytes) =
      byte.toNat * 256 ^ bytes.length + fromBeBytes bytes := by
  rw [fromBeBytes_eq, fromBeBytes_eq, List.map_cons, List.reverse_cons,
    Nat.ofDigits_append, Nat.ofDigits_singleton, List.length_reverse,
    List.length_map, Nat.add_comm, Nat.mul_comm]

theorem digits_lt :
    ∀ digit ∈ (bytes.map UInt8.toNat).reverse, digit < 256 := by
  intro digit member
  obtain ⟨byte, -, rfl⟩ := List.mem_map.mp (List.mem_reverse.mp member)
  exact byte.toNat_lt

theorem fromBeBytes_lt : fromBeBytes bytes < 256 ^ bytes.length := by
  have bound := Nat.ofDigits_lt_base_pow_length (by decide) (digits_lt bytes)
  rwa [List.length_reverse, List.length_map, ← fromBeBytes_eq] at bound

theorem fromBeBytes_inj {first second : List UInt8}
    (length : first.length = second.length)
    (same : fromBeBytes first = fromBeBytes second) : first = second := by
  rw [fromBeBytes_eq, fromBeBytes_eq] at same
  have digits := Nat.ofDigits_inj_of_len_eq (by decide) (by simpa using length)
    (digits_lt first) (digits_lt second) same
  exact List.map_injective_iff.mpr (fun _ _ => UInt8.toNat_inj.mp)
    (List.reverse_injective digits)

theorem fromBeBytes_toBeBytes {count value : Nat}
    (small : value < 256 ^ count) :
    fromBeBytes (toBeBytes count value) = value := by
  have general : fromBeBytes (toBeBytes count value) = value % 256 ^ count := by
    clear small
    induction count with
    | zero => simp [toBeBytes, fromBeBytes, Nat.mod_one]
    | succ count ih =>
      rw [toBeBytes, fromBeBytes_cons, ih, length_toBeBytes,
        pow_succ 256, Nat.mod_mul, UInt8.toNat_ofNat']
      ring
  rw [general, Nat.mod_eq_of_lt small]

variable {rest data : List UInt8}

/-- A number is read from exactly the bytes it is written as. -/
theorem toBeBytes_append_eq_iff {count value : Nat} :
    value < 256 ^ count ∧ toBeBytes count value ++ rest = data ↔
      count ≤ data.length ∧ fromBeBytes (data.take count) = value ∧
        data.drop count = rest := by
  constructor
  · rintro ⟨small, rfl⟩
    rw [List.take_left' (length_toBeBytes ..),
      List.drop_left' (length_toBeBytes ..), fromBeBytes_toBeBytes small]
    simp
  · rintro ⟨room, rfl, rfl⟩
    have size : (data.take count).length = count := List.length_take_of_le room
    have small := fromBeBytes_lt (data.take count)
    rw [size] at small
    have written : toBeBytes count (fromBeBytes (data.take count)) =
        data.take count :=
      fromBeBytes_inj ((length_toBeBytes ..).trans size.symm)
        (fromBeBytes_toBeBytes small)
    rw [written, List.take_append_drop]
    exact ⟨small, rfl⟩

theorem wordBytes_append_eq_iff {word : BitVec 64} :
    toBeBytes 8 word.toNat ++ rest = data ↔
      8 ≤ data.length ∧ BitVec.ofNat 64 (fromBeBytes (data.take 8)) = word ∧
        data.drop 8 = rest := by
  constructor
  · intro same
    obtain ⟨room, read, tail⟩ := toBeBytes_append_eq_iff.mp ⟨word.isLt, same⟩
    exact ⟨room, by rw [read, BitVec.ofNat_toNat, BitVec.setWidth_eq], tail⟩
  · rintro ⟨room, rfl, tail⟩
    obtain ⟨small, same⟩ := toBeBytes_append_eq_iff.mpr ⟨room, rfl, tail⟩
    rwa [BitVec.toNat_ofNat, Nat.mod_eq_of_lt (by simpa using small)]

theorem words_append_eq_iff {first second : BitVec 64} :
    toBeBytes 8 first.toNat ++ (toBeBytes 8 second.toNat ++ rest) = data ↔
      16 ≤ data.length ∧ BitVec.ofNat 64 (fromBeBytes (data.take 8)) = first ∧
        BitVec.ofNat 64 (fromBeBytes ((data.drop 8).take 8)) = second ∧
        data.drop 16 = rest := by
  rw [wordBytes_append_eq_iff, eq_comm (b := _ ++ rest),
    wordBytes_append_eq_iff, List.length_drop, List.drop_drop]
  constructor
  · rintro ⟨room, one, more, two, tail⟩
    exact ⟨by omega, one, two, tail⟩
  · rintro ⟨room, one, two, tail⟩
    exact ⟨by omega, one, by omega, two, tail⟩

theorem fromUtf8_eq_some_iff {bytes : List UInt8} {text : String} :
    fromUtf8 bytes = some text ↔ utf8Bytes text = bytes := by
  unfold fromUtf8 utf8Bytes String.fromUTF8?
  constructor
  · intro read
    split at read
    · cases read
      rfl
    · cases read
  · rintro rfl
    exact dif_pos text.isValidUTF8

end Numbers

namespace Mesh.MeshDatagramHeader

variable {value : String} {tail rest : List UInt8}

theorem fromBeBytes_take_fieldBytes (tail : List UInt8)
    (small : (utf8Bytes value).length < 65536) :
    fromBeBytes ((fieldBytes value ++ tail).take 2) =
      (utf8Bytes value).length := by
  rw [fieldBytes, List.append_assoc, List.take_left' (length_toBeBytes ..),
    fromBeBytes_toBeBytes small]

/-- A text behind its length is read from exactly its own bytes. -/
theorem fieldBytes_append_eq_iff :
    (utf8Bytes value).length < 65536 ∧ fieldBytes value ++ tail = rest ↔
      2 ≤ rest.length ∧ 2 + fromBeBytes (rest.take 2) ≤ rest.length ∧
        fromUtf8 ((rest.drop 2).take (fromBeBytes (rest.take 2))) = some value ∧
        rest.drop (2 + fromBeBytes (rest.take 2)) = tail := by
  constructor
  · rintro ⟨small, rfl⟩
    have body : (fieldBytes value ++ tail).drop 2 =
        utf8Bytes value ++ tail := by
      rw [fieldBytes, List.append_assoc, List.drop_left' (length_toBeBytes ..)]
    rw [fromBeBytes_take_fieldBytes tail small, ← List.drop_drop, body,
      fromUtf8_eq_some_iff, List.take_left, List.drop_left]
    simp [fieldBytes]
  · rintro ⟨present, room, read, rfl⟩
    rw [fromUtf8_eq_some_iff] at read
    have size : (utf8Bytes value).length = fromBeBytes (rest.take 2) := by
      rw [read, List.length_take, List.length_drop]
      omega
    have body : utf8Bytes value ++ rest.drop (2 + fromBeBytes (rest.take 2)) =
        rest.drop 2 := by
      rw [read, ← List.drop_drop, List.take_append_drop]
    rw [fieldBytes, List.append_assoc, body, size]
    exact toBeBytes_append_eq_iff.mpr ⟨present, rfl, rfl⟩

theorem decodeField_eq_ok_iff : decodeField rest = .ok (value, tail) ↔
      (utf8Bytes value).length ≤ maxIdLen ∧
        fieldBytes value ++ tail = rest := by
  constructor
  · intro decoded
    unfold decodeField at decoded
    split at decoded
    · cases decoded
    · next present =>
      dsimp only at decoded
      split at decoded
      · cases decoded
      · next fits =>
        simp only [Bool.or_eq_true, decide_eq_true_eq, not_or] at fits
        split at decoded
        · cases decoded
        · next read =>
          cases decoded
          obtain ⟨small, same⟩ :=
            fieldBytes_append_eq_iff.mpr ⟨by omega, by omega, read, rfl⟩
          have size := fromBeBytes_take_fieldBytes
            (rest.drop (2 + fromBeBytes (rest.take 2))) small
          rw [same] at size
          exact ⟨by omega, same⟩
  · rintro ⟨fits, same⟩
    have small : (utf8Bytes value).length < 65536 :=
      Nat.lt_of_le_of_lt fits (by decide)
    obtain ⟨present, room, read, rfl⟩ :=
      fieldBytes_append_eq_iff.mp ⟨small, same⟩
    have size := fromBeBytes_take_fieldBytes
      (rest.drop (2 + fromBeBytes (rest.take 2))) small
    rw [same] at size
    unfold decodeField
    rw [if_neg (by omega)]
    rw [if_neg (by simp; omega), read]

theorem decodeKind_eq_ok_iff {byte : UInt8} {kind : MeshDatagramKind} :
    decodeKind byte = .ok kind ↔ kind.toByte = byte := by
  unfold decodeKind
  constructor
  · intro decoded
    split at decoded <;> cases decoded <;> rfl
  · rintro rfl
    cases kind <;> rfl

variable {header : MeshDatagramHeader} {payload data : List UInt8}

theorem encode_eq_ok_iff : header.encode payload = .ok data ↔
      (∀ field ∈ [header.ingressEdgeId, header.tenantId, header.hostname],
        (utf8Bytes field).length ≤ maxIdLen) ∧
      [datagramVersion, header.kind.toByte] ++
        (toBeBytes 8 header.requestId.toNat ++
          (toBeBytes 8 header.connectionGeneration.toNat ++
            (fieldBytes header.ingressEdgeId ++ (fieldBytes header.tenantId ++
              (fieldBytes header.hostname ++ payload))))) = data := by
  unfold encode
  constructor
  · intro encoded
    split at encoded
    · cases encoded
    · next fits =>
      simp only [List.append_assoc] at encoded
      refine ⟨?_, Except.ok.inj encoded⟩
      simpa [textFields] using fits
  · rintro ⟨fits, rfl⟩
    have short : header.textFields.find? (fun field =>
        maxIdLen < (utf8Bytes field.2).length) = none := by
      simpa [textFields] using fits
    rw [short]
    simp only [List.append_assoc]

/-- Encoding and decoding are inverse to each other. -/
theorem encode_eq_ok_iff_decode :
    header.encode payload = .ok data ↔ decode data = .ok (header, payload) := by
  rw [encode_eq_ok_iff]
  constructor
  · rintro ⟨fits, rfl⟩
    simp only [List.forall_mem_cons] at fits
    obtain ⟨ingress, tenant, hostname, -⟩ := fits
    obtain ⟨room, requestId, generation, fields⟩ := words_append_eq_iff.mp
      (rfl : toBeBytes 8 header.requestId.toNat ++
        (toBeBytes 8 header.connectionGeneration.toNat ++
          (fieldBytes header.ingressEdgeId ++ (fieldBytes header.tenantId ++
            (fieldBytes header.hostname ++ payload)))) = _)
    unfold decode
    simp only [List.cons_append, List.nil_append]
    rw [if_neg (Nat.not_lt.mpr room), if_neg (by simp),
      decodeKind_eq_ok_iff.mpr rfl, requestId, generation, fields]
    simp only [Except.ok_bind, decodeField_eq_ok_iff.mpr ⟨ingress, rfl⟩,
      decodeField_eq_ok_iff.mpr ⟨tenant, rfl⟩,
      decodeField_eq_ok_iff.mpr ⟨hostname, rfl⟩]
    rfl
  · intro decoded
    unfold decode at decoded
    split at decoded
    · next version kindByte body =>
      split at decoded
      · cases decoded
      · next room =>
        split at decoded
        · cases decoded
        · next current =>
          obtain ⟨kind, known, decoded⟩ := Except.bind_eq_ok_iff.mp decoded
          obtain ⟨⟨ingressEdgeId, first⟩, ingress, decoded⟩ :=
            Except.bind_eq_ok_iff.mp decoded
          obtain ⟨⟨tenantId, second⟩, tenant, decoded⟩ :=
            Except.bind_eq_ok_iff.mp decoded
          obtain ⟨⟨hostname, third⟩, host, decoded⟩ :=
            Except.bind_eq_ok_iff.mp decoded
          cases decoded
          obtain ⟨ingressFits, ingressBytes⟩ := decodeField_eq_ok_iff.mp ingress
          obtain ⟨tenantFits, tenantBytes⟩ := decodeField_eq_ok_iff.mp tenant
          obtain ⟨hostFits, hostBytes⟩ := decodeField_eq_ok_iff.mp host
          refine ⟨by simp [*], ?_⟩
          rw [hostBytes, tenantBytes, ingressBytes,
            words_append_eq_iff.mpr ⟨Nat.not_lt.mp room, rfl, rfl, rfl⟩,
            decodeKind_eq_ok_iff.mp known, ← not_not.mp current]
          rfl
    · cases decoded

end Mesh.MeshDatagramHeader

namespace DatagramHeader

open Mesh.MeshDatagramHeader

variable {header : DatagramHeader} {payload data : List UInt8}

theorem encode_eq_iff_decode :
    (header.requestId < 2 ^ 64 ∧ (utf8Bytes header.hostname).length < 65536 ∧
        header.encode payload = data) ↔
      decode data = some (header, payload) := by
  have split : header.encode payload = toBeBytes 8 header.requestId ++
      (fieldBytes header.hostname ++ payload) := by
    simp only [encode, fieldBytes, List.append_assoc]
  rw [split]
  constructor
  · rintro ⟨small, short, same⟩
    obtain ⟨room, read, behind⟩ := toBeBytes_append_eq_iff.mp ⟨small, same⟩
    obtain ⟨present, fits, text, rfl⟩ :=
      fieldBytes_append_eq_iff.mp ⟨short, behind.symm⟩
    rw [List.length_drop] at present fits
    rw [List.drop_drop] at text
    unfold decode
    rw [if_neg (by omega)]
    rw [if_neg (by omega), text, read, List.drop_drop, ← Nat.add_assoc]
    rfl
  · intro decoded
    unfold decode at decoded
    split at decoded
    · cases decoded
    · next present =>
      dsimp only at decoded
      split at decoded
      · cases decoded
      · next fits =>
        obtain ⟨hostname, text, same⟩ := Option.map_eq_some_iff.mp decoded
        cases same
        have left := List.length_drop (i := 8) (l := data)
        obtain ⟨short, behind⟩ := fieldBytes_append_eq_iff.mpr
          ⟨by omega, by omega, by rwa [List.drop_drop],
            (rfl : (data.drop 8).drop _ = _)⟩
        rw [List.drop_drop, ← Nat.add_assoc] at behind
        obtain ⟨small, same⟩ :=
          toBeBytes_append_eq_iff.mpr ⟨by omega, rfl, behind.symm⟩
        exact ⟨small, short, same⟩

end DatagramHeader

section Bounds

/-- `data[start..stop]`, which panics out of bounds. -/
def slice (data : List UInt8) (start stop : Nat) : Option (List UInt8) :=
  if start ≤ stop ∧ stop ≤ data.length then
    some ((data.drop start).take (stop - start))
  else none

theorem slice_eq {data : List UInt8} {start stop : Nat}
    (ordered : start ≤ stop) (inside : stop ≤ data.length) :
    slice data start stop = some ((data.drop start).take (stop - start)) :=
  if_pos ⟨ordered, inside⟩

theorem slice_length {data : List UInt8} {start : Nat}
    (inside : start ≤ data.length) :
    slice data start data.length = some (data.drop start) := by
  rw [slice_eq inside le_rfl, List.take_of_length_le (by simp)]

/-- A decoder by positions; no result stands for a panic. -/
abbrev Decoding := ExceptT SieveTubeError Option

theorem lift_some_bind {Value Other : Type} (value : Value)
    (next : Value → Decoding Other) :
    ((liftM (some value) : Decoding Value) >>= next) = next value :=
  rfl

theorem pure_decoding {Value : Type} (value : Value) :
    (pure value : Decoding Value) = ExceptT.mk (some (pure value)) :=
  rfl

theorem total_bind {Value Other : Type} (first : Except SieveTubeError Value)
    (next : Value → Except SieveTubeError Other) :
    (ExceptT.mk (some first) >>= fun value => ExceptT.mk (some (next value)) :
        Decoding Other) = ExceptT.mk (some (first >>= next)) := by
  cases first <;> rfl

namespace Mesh.MeshDatagramHeader

def decodeFieldOrPanic (rest : List UInt8) : Decoding (String × List UInt8) :=
  do
  if rest.length < 2 then throw (invalid "truncated field")
  let length := fromBeBytes (← slice rest 0 2)
  if maxIdLen < length || rest.length < 2 + length then
    throw (invalid "field length")
  match fromUtf8 (← slice rest 2 (2 + length)) with
  | none => throw (invalid "field encoding")
  | some value => return (value, ← slice rest (2 + length) rest.length)

def decodeOrPanic (data : List UInt8) :
    Decoding (MeshDatagramHeader × List UInt8) := do
  if data.length < 18 then throw (invalid "truncated header")
  let version ← (data[0]? : Option UInt8)
  if version ≠ datagramVersion then throw (invalid "unsupported version")
  let kindByte ← (data[1]? : Option UInt8)
  let kind ← ExceptT.mk (some (decodeKind kindByte))
  let requestId := BitVec.ofNat 64 (fromBeBytes (← slice data 2 10))
  let connectionGeneration :=
    BitVec.ofNat 64 (fromBeBytes (← slice data 10 18))
  let (ingressEdgeId, rest) ←
    decodeFieldOrPanic (← slice data 18 data.length)
  let (tenantId, rest) ← decodeFieldOrPanic rest
  let (hostname, rest) ← decodeFieldOrPanic rest
  return ({ kind, requestId, connectionGeneration, ingressEdgeId, tenantId
            hostname }, rest)

theorem decodeFieldOrPanic_eq (rest : List UInt8) :
    decodeFieldOrPanic rest = ExceptT.mk (some (decodeField rest)) := by
  unfold decodeFieldOrPanic decodeField
  by_cases short : rest.length < 2
  · rw [if_pos short, if_pos short]
    rfl
  · rw [if_neg short, if_neg short,
      slice_eq (by omega) (by omega), lift_some_bind]
    simp only [Nat.sub_zero, List.drop_zero]
    generalize fromBeBytes (rest.take 2) = length
    by_cases long : (decide (maxIdLen < length) ||
      decide (rest.length < 2 + length)) = true
    · rw [if_pos long, if_pos long]
      rfl
    · rw [if_neg long, if_neg long]
      simp only [Bool.or_eq_true, decide_eq_true_eq, not_or] at long
      rw [slice_eq (by omega) (by omega),
        lift_some_bind, Nat.add_sub_cancel_left]
      cases fromUtf8 ((rest.drop 2).take length) with
      | none => rfl
      | some value =>
        dsimp only
        rw [slice_length (by omega), lift_some_bind]
        rfl

theorem decodeOrPanic_eq (data : List UInt8) :
    decodeOrPanic data = ExceptT.mk (some (decode data)) := by
  match data with
  | [] | [_] => rfl
  | version :: kindByte :: body =>
    unfold decodeOrPanic decode
    simp only [List.length_cons]
    by_cases short : body.length < 16
    · rw [if_pos (by omega), if_pos short]
      rfl
    · rw [if_neg (by omega), if_neg short]
      by_cases other : version ≠ datagramVersion
      · rw [if_pos other]
        exact if_pos other
      · rw [if_neg other]
        refine (if_neg other).trans ?_
        rw [slice_eq (by omega) (by simp; omega),
          slice_eq (by omega) (by simp; omega),
          ← List.length_cons, ← List.length_cons,
          slice_length (by simp; omega)]
        simp only [List.getElem?_cons_zero, List.getElem?_cons_succ,
          lift_some_bind, decodeFieldOrPanic_eq, pure_decoding,
          total_bind]
        rfl

end Mesh.MeshDatagramHeader

namespace DatagramHeader

def decodeOrPanic (data : List UInt8) :
    Option (Option (DatagramHeader × List UInt8)) := do
  if data.length < 10 then return none
  let requestId := fromBeBytes (← slice data 0 8)
  let hostnameLen := fromBeBytes (← slice data 8 10)
  if data.length < 10 + hostnameLen then return none
  match fromUtf8 (← slice data 10 (10 + hostnameLen)) with
  | none => return none
  | some hostname =>
    return some ({ requestId, hostname },
      ← slice data (10 + hostnameLen) data.length)

theorem decodeOrPanic_eq (data : List UInt8) :
    decodeOrPanic data = some (decode data) := by
  unfold decodeOrPanic decode
  by_cases short : data.length < 10
  · rw [if_pos short, if_pos short]
    rfl
  · rw [if_neg short, if_neg short, slice_eq (by omega) (by omega),
      slice_eq (by omega) (by omega)]
    simp only [Option.bind_eq_bind, Option.bind_some,
      List.drop_zero, Nat.reduceSub]
    generalize fromBeBytes ((data.drop 8).take 2) = length
    by_cases long : data.length < 10 + length
    · rw [if_pos long, if_pos long]
      rfl
    · rw [if_neg long, if_neg long, slice_eq (by omega) (by omega),
        slice_length (by omega), Option.bind_some, Nat.add_sub_cancel_left]
      cases fromUtf8 ((data.drop 10).take length) <;> rfl

end DatagramHeader

end Bounds

/-- The codecs of both headers are exact inverses, and no decoder reads
beyond its input. -/
theorem datagram_codecs_exact :
    (∀ (header : Mesh.MeshDatagramHeader) payload,
      ((header.encode payload).isOk ↔
        ∀ field ∈ [header.ingressEdgeId, header.tenantId, header.hostname],
          (utf8Bytes field).length ≤ 256) ∧
      ∀ data, header.encode payload = .ok data ↔
        Mesh.MeshDatagramHeader.decode data = .ok (header, payload)) ∧
    (∀ (header : DatagramHeader) payload data,
      (header.requestId < 2 ^ 64 ∧ (utf8Bytes header.hostname).length ≤ 65535 ∧
          header.encode payload = data) ↔
        DatagramHeader.decode data = some (header, payload)) ∧
    ∀ data, (Mesh.MeshDatagramHeader.decodeOrPanic data).run =
          some (Mesh.MeshDatagramHeader.decode data) ∧
        DatagramHeader.decodeOrPanic data =
          some (DatagramHeader.decode data) := by
  refine ⟨fun header payload => ⟨?_, fun data => ?_⟩, ?_, fun data => ?_⟩
  · constructor
    · intro accepted
      cases encoded : header.encode payload with
      | error error => rw [encoded] at accepted; cases accepted
      | ok data => exact (Mesh.MeshDatagramHeader.encode_eq_ok_iff.mp encoded).1
    · intro short
      rw [Mesh.MeshDatagramHeader.encode_eq_ok_iff.mpr ⟨short, rfl⟩]
      rfl
  · exact Mesh.MeshDatagramHeader.encode_eq_ok_iff_decode
  · intro header payload data
    rw [← DatagramHeader.encode_eq_iff_decode, Nat.lt_succ_iff]
  · exact ⟨Mesh.MeshDatagramHeader.decodeOrPanic_eq data,
      DatagramHeader.decodeOrPanic_eq data⟩

end SieveTube
