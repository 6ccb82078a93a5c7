import EnclaveSigner.Rgb.PsbtTables
import EnclaveSigner.Rgb.ScriptThresholds

/-! # The size of a signed transaction

The estimate against the BIP-141 virtual size of the transaction it is about: the
unsigned one with a witness for every input, each either supplied with the PSBT or
of the form that the estimate assumes. The estimate is never below that size.
-/

namespace EnclaveSigner.Bitcoin

open Lib

def encodeWitness (items : List Bytes) : Bytes :=
  compactSize items.length ++ items.flatMap fun item => compactSize item.length ++ item

theorem encodeWitness_length (items : List Bytes) :
    (encodeWitness items).length = witnessLength items := by
  simp only [encodeWitness, witnessLength, List.length_append, List.length_flatMap]

theorem length_flatMap_const {α : Type} {f : α → Bytes} {size : Nat}
    (each : ∀ item, (f item).length = size) (items : List α) :
    (items.flatMap f).length = size * items.length := by
  rw [List.length_flatMap, funext each, List.map_const', List.sum_replicate_nat, Nat.mul_comm]

/-- The leaf version with the parity of the output key in its lowest bit, the
    internal key and the branch. -/
def ControlBlock.serialize (control : ControlBlock) : Bytes :=
  (control.leafVersion ||| if control.outputKeyParity then 1 else 0) ::
    (control.internalKey.val ++ control.merkleBranch.flatMap (·.val))

theorem ControlBlock.serialize_length (control : ControlBlock) :
    control.serialize.length = control.size := by
  rw [serialize, List.length_cons, List.length_append, Word.length_val,
    length_flatMap_const Word.length_val, size]
  omega

/-- A transaction with a witness for each input. -/
structure SignedTransaction where
  tx : Transaction
  witnesses : List (List Bytes)

namespace SignedTransaction

/-- A marker and a flag stand before the inputs and the witnesses after the
    outputs, unless no input has a witness. -/
def serialize (signed : SignedTransaction) : Bytes :=
  if signed.witnesses.all List.isEmpty then signed.tx.serialize
  else
    (u32Le signed.tx.version).val ++ ([0x00, 0x01] ++
      (encodeSized TxIn.serialize signed.tx.input ++
        (encodeSized TxOut.serialize signed.tx.output ++
          (signed.witnesses.flatMap encodeWitness ++ (u32Le signed.tx.lockTime).val))))

/-- Bytes outside of the witnesses count four times. -/
def weight (signed : SignedTransaction) : Nat :=
  3 * signed.tx.serialize.length + signed.serialize.length

/-- The virtual size of BIP-141. -/
def vsize (signed : SignedTransaction) : Nat := (signed.weight + 3) / 4

theorem weight_le (signed : SignedTransaction) :
    signed.weight ≤ 4 * signed.tx.serialize.length + 2
      + (signed.witnesses.map witnessLength).sum := by
  have witnesses : (signed.witnesses.flatMap encodeWitness).length
      = (signed.witnesses.map witnessLength).sum := by
    rw [List.length_flatMap]
    congr 2
    exact funext encodeWitness_length
  unfold weight serialize
  split
  · omega
  · simp only [Transaction.serialize, List.length_append, List.length_cons, List.length_nil,
      witnesses]
    omega

end SignedTransaction

def Transaction.withoutScriptSigs (tx : Transaction) : Transaction :=
  { tx with
    input := ⟨tx.input.val.map fun txin => { txin with scriptSig := emptyScript }, by
      rw [List.length_map]
      exact tx.input.property⟩ }

theorem Transaction.withoutScriptSigs_eq {tx : Transaction}
    (empty : ∀ txin ∈ tx.input.val, txin.scriptSig.val = []) : tx.withoutScriptSigs = tx := by
  have same : tx.input.val.map (fun txin => { txin with scriptSig := emptyScript })
      = tx.input.val := by
    rw [List.map_congr_left (g := id), List.map_id]
    intro txin member
    have script : txin.scriptSig = emptyScript := Subtype.ext (empty txin member)
    rw [← script, id]
  have input : tx.withoutScriptSigs.input = tx.input := Subtype.ext same
  cases tx
  simp only [withoutScriptSigs] at input ⊢
  rw [input]

end EnclaveSigner.Bitcoin

namespace EnclaveSigner.Rgb.PsbtFeeSize

open Lib Bitcoin

section Sizes

theorem toNat_compactSize (n : UInt64) :
    (compactSize n).toNat = (Bitcoin.compactSize n.toNat).length := by
  have bound := n.toNat_lt
  unfold compactSize Bitcoin.compactSize
  simp only [UInt64.le_iff_toNat_le]
  change (if n.toNat ≤ 252 then (1 : UInt64) else if n.toNat ≤ 0xffff then 3
    else if n.toNat ≤ 0xffffffff then 5 else 9).toNat = _
  split_ifs <;> first | omega | simp

theorem compactSize_length_le (n : Nat) : (Bitcoin.compactSize n).length ≤ 9 := by
  unfold Bitcoin.compactSize
  split_ifs <;> simp

def itemLength (item : Bytes) : Nat := (Bitcoin.compactSize item.length).length + item.length

theorem witnessLength_eq (items : List Bytes) : witnessLength items =
    (Bitcoin.compactSize items.length).length + (items.map itemLength).sum := rfl

theorem toNat_itemSize (item : Bytes) (small : item.length < 2 ^ 63) :
    (itemSize (.ofNat item.length)).toNat = itemLength item := by
  have length : (UInt64.ofNat item.length).toNat = item.length := toNat_ofNat64 (by omega)
  have head := toNat_compactSize (.ofNat item.length)
  have short := compactSize_length_le item.length
  rw [length] at head
  rw [itemSize, toNat_add64 (by omega), head, length, itemLength]

theorem itemLength_small {item : Bytes} (small : item.length ≤ 252) :
    itemLength item = 1 + item.length := by
  rw [itemLength, compactSize_small (by omega), List.length_singleton]

theorem itemLength_le (item : Bytes) : itemLength item ≤ item.length + 9 := by
  have short := compactSize_length_le item.length
  rw [itemLength]
  omega

theorem toNat_compactSize_add_two {n : UInt64} (small : n.toNat ≤ 1000) :
    (compactSize (n + 2)).toNat = (Bitcoin.compactSize (n.toNat + 2)).length := by
  have items : (n + 2).toNat = n.toNat + 2 := toNat_add64 (by
    change n.toNat + 2 < _
    omega)
  rw [toNat_compactSize, items]

theorem sum_itemLength_le {bound : Nat} (small : bound ≤ 252) {items : List Bytes}
    (each : ∀ item ∈ items, item.length ≤ bound) :
    (items.map itemLength).sum ≤ items.length + items.countP (!·.isEmpty) * bound := by
  induction items with
  | nil => simp
  | cons item items ih =>
      have rest := ih fun other later => each other (List.mem_cons_of_mem item later)
      have here := each item List.mem_cons_self
      rw [List.map_cons, List.sum_cons, itemLength_small (by omega), List.length_cons, List.countP_cons]
      cases item with
      | nil =>
          rw [List.isEmpty_nil, List.length_nil]
          simp only [Bool.not_true, Bool.false_eq_true, if_false, Nat.add_zero]
          omega
      | cons byte bytes =>
          simp only [List.isEmpty_cons, Bool.not_false, if_true, Nat.add_mul]
          omega

theorem le_foldl_max {sizes : List UInt64} {first size : UInt64}
    (member : size ∈ first :: sizes) : size.toNat ≤ (sizes.foldl max first).toNat := by
  induction sizes generalizing first size with
  | nil => rw [List.mem_singleton.mp member, List.foldl_nil]
  | cons next sizes ih =>
      have larger := toNat_max64 first next
      have start : (max first next).toNat ≤ (sizes.foldl max (max first next)).toNat :=
        ih List.mem_cons_self
      rw [List.foldl_cons]
      rcases List.mem_cons.mp member with rfl | member
      · omega
      rcases List.mem_cons.mp member with rfl | later
      · omega
      · exact ih (List.mem_cons_of_mem _ later)

end Sizes

/-- A signature of the input has a sighash byte: it declares a type, or the
    signature it carries has one. -/
def HasSighashByte (input : PsbtInput) : Prop :=
  (∃ type, input.sighashType = some type ∧ type ≠ 0) ∨
    ∃ signature, input.tapKeySig = some signature ∧ signature.sighashType ≠ 0

/-- The witnesses that the estimate assumes for an input that spends `script`.
    `keyPath` says that the signer takes the key path. -/
inductive AssumedWitness (btc : PsbtCrate) (input : PsbtInput) (script : Sized UInt8)
    (keyPath : Bool) : List Bytes → Prop where
  | taprootKey (taproot : TxOut.isP2tr ⟨0, script⟩ = true)
      (taken : keyPath = true ∨ input.tapScripts = []) (signature : Bytes)
      (size : signature.length = 64 ∨ signature.length = 65 ∧ HasSighashByte input) :
      AssumedWitness btc input script keyPath [signature]
  | taprootLeaf (taproot : TxOut.isP2tr ⟨0, script⟩ = true) (taken : keyPath = false)
      (control : ControlBlock) (leaf : Script) (version : UInt8)
      (disclosed : (control, leaf, version) ∈ input.tapScripts) (n k : UInt64)
      (form : LeafForm btc leaf n k) (slots : List Bytes) (count : slots.length = n.toNat)
      (threshold : slots.countP (!·.isEmpty) = k.toNat)
      (each : ∀ slot ∈ slots, slot.length ≤ 65) :
      AssumedWitness btc input script keyPath (slots ++ [leaf, control.serialize])
  | p2wpkh (program : isP2wpkh script = true) (signature key : Bytes)
      (size : signature.length ≤ 73) (compressed : key.length = 33) :
      AssumedWitness btc input script keyPath [signature, key]
  | p2wsh (program : isP2wsh script = true) (witnessScript : Script)
      (disclosed : input.witnessScript = some witnessScript) (k : UInt64)
      (form : MultisigForm btc witnessScript k) (signatures : List Bytes)
      (count : signatures.length = k.toNat) (each : ∀ item ∈ signatures, item.length ≤ 73) :
      AssumedWitness btc input script keyPath ([] :: (signatures ++ [witnessScript]))

section Forms

variable {btc : PsbtCrate} {n k : UInt64}

theorem LeafForm.bounds {leaf : Script} (form : LeafForm btc leaf n k) :
    k.toNat ≤ n.toNat ∧ n.toNat ≤ 1000 ∧ leaf.length ≤ 40000 := by
  have push (opcode : UInt8) (key : XOnlyPublicKey) : (xOnlyPush opcode key).length = 34 := by
    rw [xOnlyPush, List.length_cons, List.length_append, key.length_val, List.length_singleton]
  cases form with
  | checksig key valid =>
      rw [push]
      decide
  | multiA first others n k valid count atMost least most =>
      rw [UInt64.le_iff_toNat_le] at atMost most
      have atMost : n.toNat ≤ 1000 := atMost
      have number : (scriptNumber k.toNat).length ≤ 5 := scriptNumber_length_le (by omega)
      refine ⟨most, atMost, ?_⟩
      rw [List.length_cons] at count
      simp only [List.length_append, push, length_flatMap_const (push OP_CHECKSIGADD),
        List.length_singleton]
      omega

theorem MultisigForm.bounds {script : Script} (form : MultisigForm btc script k) :
    k.toNat ≤ 20 ∧ script.length ≤ 1000 := by
  cases form with
  | checkMultisig keys n k valid count atMost least most =>
      rw [UInt64.le_iff_toNat_le] at atMost most
      have atMost : n.toNat ≤ 20 := atMost
      have push (key : Word 33) : (compressedPush key).length = 34 := by
        rw [compressedPush, List.length_cons, key.length_val]
      have required : (scriptNumber k.toNat).length ≤ 5 := scriptNumber_length_le (by omega)
      have declared : (scriptNumber n.toNat).length ≤ 5 := scriptNumber_length_le (by omega)
      refine ⟨by omega, ?_⟩
      simp only [List.length_append, length_flatMap_const push, List.length_singleton]
      omega

variable {input : PsbtInput} {script : Sized UInt8} {keyPath : Bool} {witness : List Bytes}
  {size : UInt64}

theorem leafWitnessSize_le {outputKey : XOnlyPublicKey} {control : ControlBlock} {leaf : Script}
    {version : UInt8} (read : leafWitnessSize btc outputKey (control, leaf, version) = .ok size)
    (branch : control.merkleBranch.length ≤ 128) (form : LeafForm btc leaf n k)
    {slots : List Bytes} (count : slots.length = n.toNat)
    (threshold : slots.countP (!·.isEmpty) = k.toNat) (each : ∀ slot ∈ slots, slot.length ≤ 65) :
    witnessLength (slots ++ [leaf, control.serialize]) ≤ size.toNat := by
  simp only [leafWitnessSize, bind_ok, refuse_ok, okOr_ok] at read
  obtain ⟨-, -, -, -, ⟨n', k'⟩, found, same⟩ := read
  rw [tapscriptThreshold_eq_some.mpr form] at found
  cases found
  obtain ⟨most, atMost, short⟩ := form.bounds
  have signatures := sum_itemLength_le (by decide) each
  have block : control.serialize.length ≤ 33 + 32 * 128 := by
    rw [control.serialize_length, ControlBlock.size]
    omega
  have leafLength := itemLength_le leaf
  have blockLength := itemLength_le control.serialize
  have head := toNat_compactSize_add_two atMost
  have short := compactSize_length_le (n.toNat + 2)
  have empty : (n - k).toNat = n.toNat - k.toNat :=
    UInt64.toNat_sub_of_le n k (UInt64.le_iff_toNat_le.mpr most)
  rw [← control.serialize_length] at same
  cases same
  simp only [UInt64.toNat_add, UInt64.toNat_mul, toNat_itemSize leaf (by omega),
    toNat_itemSize control.serialize (by omega), head, empty, UInt64.reduceToNat]
  simp only [witnessLength_eq, List.length_append, List.length_cons, List.length_nil, count,
    List.map_append, List.map_cons, List.map_nil, List.sum_append, List.sum_cons, List.sum_nil,
    Nat.zero_add, Nat.reduceAdd]
  omega

theorem p2wshSize_le {witnessScript : Script} (form : MultisigForm btc witnessScript k)
    {signatures : List Bytes} (count : signatures.length = k.toNat)
    (each : ∀ item ∈ signatures, item.length ≤ 73) :
    witnessLength ([] :: (signatures ++ [witnessScript]))
      ≤ (compactSize (k + 2) + 1 + k * 74 + itemSize (.ofNat witnessScript.length)).toNat := by
  obtain ⟨most, short⟩ := form.bounds
  have items := sum_itemLength_le (by decide) each
  have nonempty : signatures.countP (!·.isEmpty) ≤ signatures.length := List.countP_le_length
  have scriptLength := itemLength_le witnessScript
  have head := toNat_compactSize_add_two (show k.toNat ≤ 1000 by omega)
  have small := compactSize_length_le (k.toNat + 2)
  have dummy : itemLength [] = 1 := itemLength_small (by decide)
  simp only [UInt64.toNat_add, UInt64.toNat_mul, toNat_itemSize witnessScript (by omega), head,
    UInt64.reduceToNat]
  simp only [witnessLength_eq, List.length_append, List.length_cons, List.length_nil, count,
    List.map_append, List.map_cons, List.map_nil, List.sum_append, List.sum_cons, List.sum_nil,
    dummy, Nat.zero_add, Nat.add_assoc, Nat.reduceAdd]
  omega

theorem taprootKeySize_le {signature : Bytes}
    (length : signature.length = 64 ∨ signature.length = 65 ∧ HasSighashByte input) :
    witnessLength [signature] ≤ (witnessSize [if
      input.sighashType.any (· != 0) || input.tapKeySig.any (·.sighashType != 0) then 65
      else 64]).toNat := by
  have one : witnessLength [signature] = 2 + signature.length := by
    rw [witnessLength_eq, List.map_singleton, List.sum_singleton, itemLength_small (by omega),
      List.length_singleton, compactSize_small (by decide), List.length_singleton]
    omega
  have sizes : (witnessSize [64]).toNat = 66 ∧ (witnessSize [65]).toNat = 67 := by decide
  split
  · omega
  · rename_i bare
    rcases length with length | ⟨length, declares | carries⟩
    · omega
    · obtain ⟨type, declared, nonzero⟩ := declares
      simp [declared, nonzero] at bare
    · obtain ⟨carried, found, nonzero⟩ := carries
      simp [found, nonzero] at bare

theorem not_p2tr_of_p2wpkh (program : isP2wpkh script = true) :
    ¬ TxOut.isP2tr ⟨0, script⟩ = true := by
  simp only [isP2wpkh, TxOut.isP2tr, Bool.and_eq_true, beq_iff_eq] at program ⊢
  omega

theorem not_others_of_p2wsh (program : isP2wsh script = true) :
    ¬ TxOut.isP2tr ⟨0, script⟩ = true ∧ ¬ isP2wpkh script = true := by
  simp only [isP2wsh, isP2wpkh, TxOut.isP2tr, Bool.and_eq_true, beq_iff_eq] at program ⊢
  rw [program.1, program.2]
  decide

theorem p2wpkhSize_le {signature key : Bytes} (length : signature.length ≤ 73)
    (compressed : key.length = 33) :
    witnessLength [signature, key] ≤ (witnessSize [73, 33]).toNat := by
  have size : (witnessSize [73, 33]).toNat = 109 := by decide
  have number : Bitcoin.compactSize [signature, key].length = [2] := compactSize_small (by simp)
  rw [witnessLength_eq, number]
  simp only [List.map_cons, List.map_nil, List.sum_cons, List.sum_nil, List.length_singleton,
    itemLength_small (show signature.length ≤ 252 by omega),
    itemLength_small (show key.length ≤ 252 by omega)]
  omega

theorem assumedWitness_le (assumed : AssumedWitness btc input script keyPath witness)
    (branches : ∀ entry ∈ input.tapScripts, entry.1.merkleBranch.length ≤ 128)
    (estimated : inputWitnessSize btc input script keyPath = .ok size) :
    witnessLength witness ≤ size.toNat := by
  unfold inputWitnessSize at estimated
  cases assumed with
  | taprootKey taproot taken signature length =>
      have path : (keyPath || input.tapScripts.isEmpty) = true := by
        rcases taken with rfl | none
        · rfl
        · rw [none, List.isEmpty_nil, Bool.or_true]
      rw [if_pos taproot, taprootWitnessSize, if_pos path] at estimated
      simp only [bind_ok, refuse_ok, okOr_ok] at estimated
      obtain ⟨_, -, -, -, same⟩ := estimated
      cases same
      exact taprootKeySize_le length
  | taprootLeaf taproot taken control leaf version disclosed n k form slots count threshold each =>
      have path : ¬ (keyPath || input.tapScripts.isEmpty) = true := by
        rw [taken, Bool.false_or, List.isEmpty_iff]
        exact List.ne_nil_of_mem disclosed
      rw [if_pos taproot, taprootWitnessSize, if_neg path] at estimated
      simp only [bind_ok, refuse_ok, okOr_ok] at estimated
      obtain ⟨program, -, -, -, sizes, read, same⟩ := estimated
      cases same
      obtain ⟨leafSize, member, found⟩ := answer_of_mapM_ok read disclosed
      exact (leafWitnessSize_le found (branches _ disclosed) form count threshold each).trans
        (le_foldl_max (List.mem_cons_of_mem 0 member))
  | p2wpkh program signature key length compressed =>
      rw [if_neg (not_p2tr_of_p2wpkh program), if_pos program] at estimated
      cases estimated
      exact p2wpkhSize_le length compressed
  | p2wsh program witnessScript disclosed k form signatures count each =>
      obtain ⟨taproot, keyHash⟩ := not_others_of_p2wsh program
      rw [if_neg taproot, if_neg keyHash, if_pos program] at estimated
      simp only [bind_ok, refuse_ok, okOr_ok, disclosed] at estimated
      obtain ⟨_, given, -, -, required, found, same⟩ := estimated
      cases given
      rw [multisigThreshold_eq_some.mpr form] at found
      cases found
      cases same
      exact p2wshSize_le form count each

end Forms

section Run

variable {btc : PsbtCrate} {psbt : Psbt} {keyPathInputs : List Nat}

/-- A witness that the input may have in the signed transaction. -/
def Completes (btc : PsbtCrate) (keyPath : Bool) (input : PsbtInput) (prevout : TxOut)
    (witness : List Bytes) : Prop :=
  input.finalScriptWitness = some witness ∨
    AssumedWitness btc input prevout.scriptPubkey keyPath witness

/-- The sizes that the types of the source bound: a witness has a machine size, and
    a branch of a Taproot tree at most 128 nodes. -/
structure InputBounds (input : PsbtInput) : Prop where
  witness : ∀ items, input.finalScriptWitness = some items → witnessLength items < 2 ^ 64
  branches : ∀ entry ∈ input.tapScripts, entry.1.merkleBranch.length ≤ 128

theorem witnessLength_le_inputWeight {txin : TxIn} {input : PsbtInput}
    {funding : Except String TxOut} {keyPath : Bool} {added : UInt64} {witness : List Bytes}
    (bounds : InputBounds input)
    (completes : ∀ prevout, funding = .ok prevout → Completes btc keyPath input prevout witness)
    (read : inputWeight btc txin input funding keyPath = .ok added) :
    txin.scriptSig.val = [] ∧ witnessLength witness ≤ added.toNat := by
  simp only [inputWeight, bind_ok, refuse_ok, mapError_ok, not_not] at read
  obtain ⟨_, empty, _, -, prevout, funded, estimated, size, same⟩ := read
  cases same
  refine ⟨empty, ?_⟩
  rw [toNat_max64]
  rcases completes prevout funded with supplied | assumed
  · rw [supplied]
    have whole := toNat_ofNat64 (bounds.witness witness supplied)
    simp only [Option.map_some, Option.getD_some, whole]
    omega
  · have bound := assumedWitness_le assumed bounds.branches size
    omega

theorem witnessLengths_le_addWeights {inputs : List (TxIn × PsbtInput × Except String TxOut)}
    {witnesses : List (List Bytes)} {index : Nat} {weight total : UInt64}
    (count : witnesses.length = inputs.length)
    (bounds : ∀ row ∈ inputs, InputBounds row.2.1)
    (completes : ∀ i row prevout witness, inputs[i]? = some row → row.2.2 = .ok prevout →
      witnesses[i]? = some witness →
      Completes btc (keyPathInputs.contains (index + i)) row.2.1 prevout witness)
    (added : addWeights btc keyPathInputs index weight inputs = .ok total) :
    (∀ row ∈ inputs, row.1.scriptSig.val = []) ∧
      weight.toNat + (witnesses.map witnessLength).sum ≤ total.toNat := by
  induction inputs generalizing witnesses index weight with
  | nil =>
      cases added
      rw [List.length_eq_zero_iff.mp count]
      exact ⟨fun row member => absurd member List.not_mem_nil, le_refl _⟩
  | cons row rest ih =>
      obtain ⟨txin, input, funding⟩ := row
      obtain ⟨witness, witnesses, rfl⟩ := List.exists_cons_of_length_eq_add_one count
      simp only [addWeights, bind_ok, mapError_ok, okOr_ok, checkedAdd64_eq_some] at added
      obtain ⟨more, read, next, sum, added⟩ := added
      obtain ⟨empty, here⟩ := witnessLength_le_inputWeight
        (bounds _ List.mem_cons_self)
        (fun prevout funded => completes 0 _ prevout witness rfl funded rfl) read
      obtain ⟨others, later⟩ := ih (by simpa using count)
        (fun row member => bounds row (List.mem_cons_of_mem _ member))
        (fun i row prevout witness at_i funded given => by
          have step := completes (i + 1) row prevout witness at_i funded given
          rwa [← Nat.add_assoc, Nat.add_right_comm] at step) added
      refine ⟨?_, ?_⟩
      · rintro row (_ | ⟨_, member⟩)
        · exact empty
        · exact others row member
      · rw [List.map_cons, List.sum_cons]
        omega

/-- What the types of the source bound in a PSBT. -/
structure MachineSizes (psbt : Psbt) : Prop where
  base : psbt.unsignedTx.serialize.length < 2 ^ 64
  inputs : ∀ input ∈ psbt.inputs, InputBounds input

/-- The transaction of the PSBT with no input scripts, and for every input its
    supplied witness or one of the form that the estimate assumes. -/
structure CompletedBy (btc : PsbtCrate) (psbt : Psbt) (keyPathInputs : List Nat)
    (signed : SignedTransaction) : Prop where
  tx : signed.tx = psbt.unsignedTx.withoutScriptSigs
  count : signed.witnesses.length = psbt.inputs.length
  each : ∀ index input prevout witness, psbt.inputs[index]? = some input →
    (btc.iterFundingUtxos psbt)[index]? = some (.ok prevout) →
    signed.witnesses[index]? = some witness →
    Completes btc (keyPathInputs.contains index) input prevout witness

theorem vsize_le_of_weight_le {signed : SignedTransaction} {weight : UInt64}
    (bound : signed.weight ≤ weight.toNat) :
    signed.vsize ≤ (weight / 4 + if weight % 4 = 0 then 0 else 1).toNat := by
  have below := weight.toNat_lt
  have quarter : (weight / 4).toNat = weight.toNat / 4 := UInt64.toNat_div weight 4
  have remainder : (weight % 4).toNat = weight.toNat % 4 := UInt64.toNat_mod weight 4
  rw [SignedTransaction.vsize]
  split
  · rename_i whole
    rw [whole] at remainder
    have remainder : 0 = weight.toNat % 4 := remainder
    rw [UInt64.add_zero, quarter]
    omega
  · have up : (weight / 4 + 1).toNat = weight.toNat / 4 + 1 := by
      rw [← quarter]
      exact toNat_add64 (by rw [quarter]; change _ + 1 < _; omega)
    rw [up]
    omega

/-- The estimate is no less than the virtual size of any transaction that completes
    the PSBT. `funded` says that the crate finds one funding output per input. -/
theorem signed_size_is_upper_bound {btc : PsbtCrate} {psbt : Psbt} {keyPathInputs : List Nat}
    {vsize : UInt64} {signed : SignedTransaction}
    (funded : psbt.inputs.length = psbt.unsignedTx.input.val.length →
      (btc.iterFundingUtxos psbt).length = psbt.inputs.length)
    (sizes : MachineSizes psbt)
    (estimated : estimatedSignedVsize btc psbt keyPathInputs = .ok vsize)
    (completed : CompletedBy btc psbt keyPathInputs signed) : signed.vsize ≤ vsize.toNat := by
  simp only [estimatedSignedVsize, bind_ok, refuse_ok, not_or, not_not, okOr_ok,
    Option.bind_eq_bind, Option.bind_eq_some_iff, checkedMul64_eq_some, checkedAdd64_eq_some]
    at estimated
  obtain ⟨_, ⟨-, inputs⟩, start, ⟨quadruple, four, two⟩, weight, added, same⟩ := estimated
  have fundings := funded inputs
  set rows := psbt.unsignedTx.input.val.zip (psbt.inputs.zip (btc.iterFundingUtxos psbt)) with zipped
  have length : rows.length = psbt.inputs.length := by
    rw [zipped, List.length_zip, List.length_zip]
    omega
  have completes : ∀ i row prevout witness, rows[i]? = some row → row.2.2 = .ok prevout →
      signed.witnesses[i]? = some witness →
      Completes btc (keyPathInputs.contains (0 + i)) row.2.1 prevout witness := by
    intro i row prevout witness found funding given
    rw [zipped, List.getElem?_zip_eq_some, List.getElem?_zip_eq_some, funding] at found
    rw [Nat.zero_add]
    exact completed.each i _ prevout witness found.2.1 found.2.2 given
  obtain ⟨empty, bound⟩ := witnessLengths_le_addWeights (completed.count.trans length.symm)
    (fun row member => sizes.inputs _ (List.of_mem_zip (List.of_mem_zip member).2).1)
    completes added
  have scripts : ∀ txin ∈ psbt.unsignedTx.input.val, txin.scriptSig.val = [] := by
    intro txin member
    have unzipped : rows.map Prod.fst = psbt.unsignedTx.input.val := by
      refine List.map_fst_zip ?_
      rw [List.length_zip]
      omega
    rw [← unzipped] at member
    obtain ⟨row, inside, rfl⟩ := List.mem_map.mp member
    exact empty row inside
  have base : psbt.unsignedTx.baseSize.toNat = signed.tx.serialize.length := by
    rw [completed.tx, Transaction.withoutScriptSigs_eq scripts]
    exact toNat_ofNat64 sizes.base
  have total := signed.weight_le
  cases same
  apply vsize_le_of_weight_le
  rw [base] at four
  have four : quadruple.toNat = signed.tx.serialize.length * 4 := four
  have two : start.toNat = quadruple.toNat + 2 := two
  omega

section Sample

def sampleSignerKey : XOnlyPublicKey :=
  .ofNatBe 32 0xc679075a866a558af01406ab1437aaa98ef929959a693c3b6cf5a72a7d3e93a0

def sampleLeaf : Script := xOnlyPush OP_CHECKSIG sampleSignerKey

def sampleControlBlock : ControlBlock where
  leafVersion := LEAF_VERSION_TAPSCRIPT
  outputKeyParity := true
  internalKey :=
    .ofNatBe 32 0x122cdcc18a856600f494374bd1f094868dabe8c6657ae230ec5c520e04673e33
  merkleBranch := []

def sampleLeafOutputKey : XOnlyPublicKey :=
  .ofNatBe 32 0x4ff7923bc5408c0ca4907a91379113ff5b54dfe3e3eb9b920d2c3ffaa411c521

def sampleMultisig : Script :=
  scriptNumber 1 ++ [⟨0x02 :: sampleSignerKey.val, by decide⟩].flatMap compressedPush
    ++ scriptNumber 1 ++ [OP_CHECKMULTISIG]

def sampleMultisigHash : Word 32 :=
  .ofNatBe 32 0xd0ce44a7854b1a5e8eb72675a1eb7397a18ff387bc8bb6bd13e346ead727490a

def sizeCrate : PsbtCrate :=
  { psbtCrateWith (fun _ => .zero 32) [] with
    verifyTaprootCommitment := fun control outputKey leaf =>
      control = sampleControlBlock ∧ outputKey = sampleLeafOutputKey ∧ leaf = sampleLeaf
    sha256 := tableHash [(sampleMultisig, sampleMultisigHash)] }

/-- A key path, a leaf, a key hash and a multisig script. -/
def sizePsbt : Psbt where
  unsignedTx := {
    version := 2
    input := ⟨(List.range 4).map fun vout => ⟨.fill 32 7, .ofNat vout, emptyScript, 0⟩,
      by decide⟩
    output := ⟨[⟨3000, newP2trTweaked sampleSignerKey⟩], by decide⟩
    lockTime := 0 }
  inputs := [
    { witnessUtxo := some ⟨1000, newP2trTweaked
        (.ofNatBe 32 0x07e534fa92cda5523fb84df6ec4326671a7c66a80815fe1414a7b4e42aa6bbce)⟩
      tapInternalKey := some sampleSignerKey },
    { witnessUtxo := some ⟨1000, newP2trTweaked sampleLeafOutputKey⟩
      tapScripts := [(sampleControlBlock, sampleLeaf, LEAF_VERSION_TAPSCRIPT)] },
    { witnessUtxo := some ⟨1000, ⟨0x00 :: 0x14 :: List.replicate 20 9, by decide⟩⟩ },
    { witnessUtxo := some ⟨1000, pushScript 0x00 sampleMultisigHash⟩
      witnessScript := some sampleMultisig }]
  outputs := [{}]

def sizeSigned : SignedTransaction where
  tx := sizePsbt.unsignedTx
  witnesses := [
    [List.replicate 64 1],
    [List.replicate 64 2, sampleLeaf, sampleControlBlock.serialize],
    [List.replicate 72 3, List.replicate 33 4],
    [[], List.replicate 71 5, sampleMultisig]]

theorem sizeSigned_completes : CompletedBy sizeCrate sizePsbt [] sizeSigned where
  tx := by decide
  count := rfl
  each := by
    intro index input prevout witness given funding found
    match index with
    | 0 =>
        cases given
        cases funding
        cases found
        exact .inr (.taprootKey (by decide) (.inr rfl) _ (.inl (by decide)))
    | 1 =>
        cases given
        cases funding
        cases found
        exact .inr (.taprootLeaf (by decide) rfl _ _ _ List.mem_cons_self 1 1
          (.checksig sampleSignerKey rfl) [List.replicate 64 2] rfl (by decide) (by decide))
    | 2 =>
        cases given
        cases funding
        cases found
        exact .inr (.p2wpkh (by decide) _ _ (by decide) (by decide))
    | 3 =>
        cases given
        cases funding
        cases found
        exact .inr (.p2wsh (by decide) sampleMultisig rfl 1
          (.checkMultisig _ 1 1 (fun _ _ => rfl) rfl (by decide) (by decide) (by decide))
          [List.replicate 71 5] rfl (by decide))
    | index + 4 => cases given

/-- One input of each of the four forms, and an estimate of 324 bytes. -/
theorem signed_size_is_upper_bound_four_inputs :
    estimatedSignedVsize sizeCrate sizePsbt [] = .ok 324 ∧ sizeSigned.vsize ≤ 324 := by
  have estimated : estimatedSignedVsize sizeCrate sizePsbt [] = .ok 324 := by decide +kernel
  refine ⟨estimated, signed_size_is_upper_bound (fun _ => rfl) ⟨by decide +kernel, ?_⟩ estimated
    sizeSigned_completes⟩
  intro input member
  refine ⟨?_, ?_⟩
  · revert input
    decide +kernel
  · revert input
    decide +kernel

end Sample

end Run

end EnclaveSigner.Rgb.PsbtFeeSize
