import EnclaveSigner.Bitcoin.Header
import EnclaveSigner.Lib.SelfDelimiting

/-! # Transactions

A transaction here is what its txid commits to: the legacy serialization, with
no witness data. Lengths go in front of scripts and lists as compact sizes. The
types keep every length below `2 ^ 64`, where a compact size is exact, so the
serialization determines the transaction.
-/

namespace EnclaveSigner.Bitcoin

open Lib

/-- The compact size of a length: one byte up to 252, and a marker byte with
    two, four or eight bytes above. -/
def compactSize (n : Nat) : Bytes :=
  if n < 0xFD then natLe 1 n
  else if n < 2 ^ 16 then 0xFD :: natLe 2 n
  else if n < 2 ^ 32 then 0xFE :: natLe 4 n
  else 0xFF :: natLe 8 n

theorem compactSize_small {n : Nat} (small : n < 0xFD) : compactSize n = [UInt8.ofNat n] := by
  rw [compactSize, if_pos small]
  rfl

theorem compactSize_pos (n : Nat) : 0 < (compactSize n).length := by
  unfold compactSize
  split_ifs
  all_goals simp

def readCompactSize : Bytes → Nat × Bytes
  | [] => (0, [])
  | marker :: rest =>
      if marker.toNat < 0xFD then (marker.toNat, rest)
      else
        let width := if marker = 0xFD then 2 else if marker = 0xFE then 4 else 8
        (ofLe (rest.take width), rest.drop width)

theorem read_natLe (width : Nat) {n : Nat} (small : n < 256 ^ width) (rest : Bytes) :
    (ofLe ((natLe width n ++ rest).take width), (natLe width n ++ rest).drop width)
      = (n, rest) := by
  rw [List.take_left' (natLe_length width n), List.drop_left' (natLe_length width n),
    ofLe_natLe, Nat.mod_eq_of_lt small]

theorem readCompactSize_append {n : Nat} (small : n < 2 ^ 64) (rest : Bytes) :
    readCompactSize (compactSize n ++ rest) = (n, rest) := by
  unfold compactSize
  split
  · rename_i single
    have byte : (UInt8.ofNat n).toNat = n := by
      rw [UInt8.toNat_ofNat']
      omega
    simp only [natLe, List.cons_append, List.nil_append, readCompactSize, byte, single, if_true]
  split
  · exact read_natLe 2 (by omega) rest
  split
  · exact read_natLe 4 (by omega) rest
  · exact read_natLe 8 (by omega) rest

theorem compactSize_delimited {a b : Nat} {x y : Bytes} (ha : a < 2 ^ 64) (hb : b < 2 ^ 64)
    (same : compactSize a ++ x = compactSize b ++ y) : a = b ∧ x = y := by
  have read := congrArg readCompactSize same
  rw [readCompactSize_append ha, readCompactSize_append hb] at read
  exact Prod.mk.inj read

/-- A list whose length a compact size can hold. -/
abbrev Sized (α : Type) := { items : List α // items.length < 2 ^ 64 }

def encodeSized {α : Type} (encode : α → Bytes) (items : Sized α) : Bytes :=
  compactSize items.val.length ++ items.val.flatMap encode

theorem encodeSized_delimited {α : Type} {encode : α → Bytes}
    (delimited : SelfDelimiting encode) : SelfDelimiting (encodeSized encode) := by
  intro a b x y same
  simp only [encodeSized, List.append_assoc] at same
  obtain ⟨length, rest⟩ := compactSize_delimited a.property b.property same
  obtain ⟨items, rest⟩ := delimited.items length rest
  exact ⟨Subtype.ext items, rest⟩

theorem byte_delimited : SelfDelimiting (fun byte : UInt8 => [byte]) := by
  intro a b x y same
  exact List.cons.inj same

structure TxIn where
  previousTxid : Word 32
  previousVout : UInt32
  scriptSig : Sized UInt8
  sequence : UInt32
  deriving DecidableEq

structure TxOut where
  value : UInt64
  scriptPubkey : Sized UInt8
  deriving DecidableEq

theorem length_nil_lt {α : Type} : ([] : List α).length < 2 ^ 64 := Nat.two_pow_pos 64

def emptyScript : Sized UInt8 := ⟨[], length_nil_lt⟩

/-- An opcode, the length of a 32-byte push, and the bytes pushed. -/
def pushScript (opcode : UInt8) (payload : Word 32) : Sized UInt8 :=
  ⟨opcode :: 0x20 :: payload.val, by
    rw [List.length_cons, List.length_cons, payload.property]
    decide⟩

def TxOut.isOpReturn (output : TxOut) : Bool := output.scriptPubkey.val.head? == some 0x6a

def TxOut.isP2tr (output : TxOut) : Bool :=
  output.scriptPubkey.val.length == 34 && output.scriptPubkey.val.take 2 == [0x51, 0x20]

structure Transaction where
  version : UInt32
  input : Sized TxIn
  output : Sized TxOut
  lockTime : UInt32
  deriving DecidableEq

def encodeScript : Sized UInt8 → Bytes := encodeSized fun byte => [byte]

def TxIn.serialize (input : TxIn) : Bytes :=
  input.previousTxid.val ++ ((u32Le input.previousVout).val ++
    (encodeScript input.scriptSig ++ (u32Le input.sequence).val))

def TxOut.serialize (output : TxOut) : Bytes :=
  (u64Le output.value).val ++ encodeScript output.scriptPubkey

namespace Transaction

def serialize (tx : Transaction) : Bytes :=
  (u32Le tx.version).val ++ (encodeSized TxIn.serialize tx.input ++
    (encodeSized TxOut.serialize tx.output ++ (u32Le tx.lockTime).val))

def txid (btc : Crate) (tx : Transaction) : Word 32 := btc.sha256d tx.serialize

end Transaction

theorem u32Le_delimited : SelfDelimiting (fun value => (u32Le value).val) :=
  SelfDelimiting.comp (SelfDelimiting.word 4) u32Le_injective

theorem u64Le_delimited : SelfDelimiting (fun value => (u64Le value).val) :=
  SelfDelimiting.comp (SelfDelimiting.word 8) u64Le_injective

theorem TxIn.serialize_delimited : SelfDelimiting TxIn.serialize := by
  intro a b x y same
  simp only [TxIn.serialize, List.append_assoc] at same
  obtain ⟨txid, same⟩ := append_parts same
  obtain ⟨vout, same⟩ := u32Le_delimited same
  obtain ⟨script, same⟩ := encodeSized_delimited byte_delimited same
  obtain ⟨sequence, rest⟩ := u32Le_delimited same
  cases a
  cases b
  simp only [TxIn.mk.injEq]
  exact ⟨⟨txid, vout, script, sequence⟩, rest⟩

theorem TxOut.serialize_delimited : SelfDelimiting TxOut.serialize := by
  intro a b x y same
  simp only [TxOut.serialize, List.append_assoc] at same
  obtain ⟨value, same⟩ := u64Le_delimited same
  obtain ⟨script, rest⟩ := encodeSized_delimited byte_delimited same
  cases a
  cases b
  simp only [TxOut.mk.injEq]
  exact ⟨⟨value, script⟩, rest⟩

theorem Transaction.serialize_injective : Function.Injective Transaction.serialize := by
  intro a b same
  simp only [Transaction.serialize] at same
  obtain ⟨version, same⟩ := u32Le_delimited same
  obtain ⟨input, same⟩ := encodeSized_delimited TxIn.serialize_delimited same
  obtain ⟨output, lockTime⟩ := encodeSized_delimited TxOut.serialize_delimited same
  have lockTime := u32Le_delimited.injective lockTime
  cases a
  cases b
  simp only [Transaction.mk.injEq]
  exact ⟨version, input, output, lockTime⟩

end EnclaveSigner.Bitcoin
