import EnclaveSigner.Rgb.SpvCrosscheck
import EnclaveSigner.Spv.ChainInvariant

/-! # What the SPV checks prove

The proofs of an accepted request cover the witness txids, and each of their
heights is pinned. A pin that is still good in a later chain carries the evidence
over to it, because there the same hash stands at the same height.
-/

namespace EnclaveSigner.Rgb

open Lib Bitcoin Spv Proto

variable {btc : Crate}

/-- The proof leads from its txid to the Merkle root of the header. The wire
    carries hashes in display order. -/
def LeadsTo (btc : Crate) (proof : MerkleProofEntry) (header : Header) : Prop :=
  ∃ (txid : Word 32) (path : List Sha256d),
    proof.txid = txid.val ∧ proof.merklePath = path.map (·.reverse.val) ∧
    verifyMerkleProof btc txid.reverse proof.txPosition path header.merkleRoot = .ok ()

def headersFrom (chain : HeaderChain) (height : BlockHeight) : List Header :=
  chain.headers.drop (height - chain.baseHeight - 1).toNat

/-- The header at the height of the proof contains the proven transaction, under
    at least `depth` headers, itself included. -/
def ProvenIn (btc : Crate) (chain : HeaderChain) (depth : UInt32) (proof : MerkleProofEntry) :
    Prop :=
  ∃ header, chain.headerAt proof.blockHeight = some header ∧ LeadsTo btc proof header ∧
    depth.toNat ≤ (headersFrom chain proof.blockHeight).length

section Coverage

variable {expected seen result : List (Word 32)}

theorem proofTxid_ok {index : Nat} {proof : MerkleProofEntry} {txid : Word 32}
    (named : proofTxid index proof = .ok txid) : proof.txid = txid.val := by
  simp only [proofTxid, bind_ok] at named
  obtain ⟨word, found, -, -, same⟩ := named
  cases same
  exact Word.ofBytes?_eq_some.mp (okOr_ok.mp found)

theorem coverage_ok {entries : List (MerkleProofEntry × Nat)}
    (nodup : seen.Nodup) (inside : seen ⊆ expected)
    (covered : coverage expected seen entries = .ok result) :
    result.Nodup ∧ result ⊆ expected ∧
      ∀ txid ∈ result, txid ∈ seen ∨ ∃ entry ∈ entries, entry.1.txid = txid.val := by
  induction entries generalizing seen with
  | nil =>
      cases covered
      exact ⟨nodup, inside, fun txid member => .inl member⟩
  | cons entry rest ih =>
      simp only [coverage, bind_ok, refuse_ok] at covered
      obtain ⟨txid, named, _, fresh, _, wanted, covered⟩ := covered
      have wanted : txid ∈ expected := not_not.mp wanted
      obtain ⟨distinct, subset, named_all⟩ := ih (List.nodup_cons.mpr ⟨fresh, nodup⟩)
        (List.cons_subset.mpr ⟨wanted, inside⟩) covered
      refine ⟨distinct, subset, fun other member => ?_⟩
      rcases named_all other member with known | ⟨later, there, same⟩
      · rcases List.mem_cons.mp known with rfl | older
        · exact .inr ⟨entry, List.mem_cons_self, proofTxid_ok named⟩
        · exact .inl older
      · exact .inr ⟨later, List.mem_cons_of_mem _ there, same⟩

theorem pathInternal_ok {index : Nat} {raw : List Bytes} {path : List Sha256d}
    (read : pathInternal index raw = .ok path) : raw = path.map (·.reverse.val) := by
  have general : ∀ start, (raw.zipIdx start).mapM (siblingInternal index) = .ok path →
      raw = path.map (·.reverse.val) := by
    clear read
    induction raw generalizing path with
    | nil =>
        intro start read
        cases read
        rfl
    | cons sib raw ih =>
        intro start read
        simp only [List.zipIdx_cons, List.mapM_cons, siblingInternal, bind_ok] at read
        obtain ⟨hash, ⟨word, found, same⟩, rest, tail, whole⟩ := read
        cases same
        cases whole
        rw [List.map_cons, ← ih _ tail, Word.reverse_reverse,
          Word.ofBytes?_eq_some.mp (okOr_ok.mp found)]
  exact general 0 read

theorem mem_txidSet {txids : List (Word 32)} {txid : Word 32} :
    txid ∈ txidSet txids ↔ txid ∈ txids := by
  rw [txidSet, List.mem_insertionSort, List.mem_dedup]

theorem verifyOneProof_ok {chain : HeaderChain} {tip : BlockHeight} {depth : UInt32}
    {index : Nat} {proof : MerkleProofEntry}
    (passes : verifyOneProof btc chain tip depth index proof = .ok ()) :
    ∃ header, chain.headerAt proof.blockHeight = some header ∧ LeadsTo btc proof header ∧
      depth ≤ chain.tipHeight - proof.blockHeight + 1 := by
  simp only [verifyOneProof, bind_ok, refuse_ok] at passes
  obtain ⟨header, found, _, deep, txid, named, path, read, verified⟩ := passes
  have here := okOr_ok.mp found
  refine ⟨header, here, ⟨txid, path, Word.ofBytes?_eq_some.mp (okOr_ok.mp named),
    pathInternal_ok read, ?_⟩, ?_⟩
  · cases result : verifyMerkleProof btc txid.reverse proof.txPosition path header.merkleRoot with
    | ok u => rfl
    | error e => rw [result] at verified; cases verified
  · rw [HeaderChain.confirmations, here] at deep
    simp only [Option.isNone_some, Bool.false_eq_true, if_false, UInt32.not_lt,
      UInt32.le_iff_toNat_le, toNat_min32] at deep ⊢
    omega

theorem validateSpvProofs_ok {chain : HeaderChain} {expectedTxids : List (Word 32)}
    {proofs : List MerkleProofEntry} {depth : UInt32}
    (passes : validateSpvProofs btc chain expectedTxids proofs depth = .ok ()) :
    (∀ txid ∈ expectedTxids, ∃ proof ∈ proofs, proof.txid = txid.val) ∧
      ∀ proof ∈ proofs, ∃ header, chain.headerAt proof.blockHeight = some header ∧
        LeadsTo btc proof header ∧ depth ≤ chain.tipHeight - proof.blockHeight + 1 := by
  simp only [validateSpvProofs, bind_ok, refuse_ok, forM_ok, ne_eq, not_not] at passes
  obtain ⟨proofSet, covered, _, sameSize, each⟩ := passes
  obtain ⟨distinct, subset, named⟩ := coverage_ok List.nodup_nil (List.nil_subset _) covered
  have complete : txidSet expectedTxids ⊆ proofSet :=
    ((List.subperm_of_subset distinct subset).perm_of_length_le sameSize.ge).symm.subset
  constructor
  · intro txid wanted
    rcases named txid (complete (mem_txidSet.mpr wanted)) with impossible | ⟨entry, there, same⟩
    · cases impossible
    · exact ⟨entry.1, List.fst_mem_of_mem_zipIdx there, same⟩
  · intro proof member
    obtain ⟨i, inRange, rfl⟩ := List.getElem_of_mem member
    exact verifyOneProof_ok (each (proofs[i], i) (List.mk_mem_zipIdx_iff_getElem?.mpr
      (List.getElem?_eq_getElem inRange)))

theorem LeadsTo.merkleRoot_eq {proof : MerkleProofEntry} {header header' : Header}
    (leads : LeadsTo btc proof header) (leads' : LeadsTo btc proof header') :
    header.merkleRoot = header'.merkleRoot := by
  obtain ⟨txid, path, named, siblings, verified⟩ := leads
  obtain ⟨txid', path', named', siblings', verified'⟩ := leads'
  have sameTxid : txid = txid' := Subtype.ext (named.symm.trans named')
  have samePath : path = path' := by
    refine List.map_injective_iff.mpr (fun a b same => ?_) (siblings.symm.trans siblings')
    rw [← a.reverse_reverse, Subtype.ext same, Word.reverse_reverse]
  subst sameTxid samePath
  exact (verifyMerkleProof_ok.mp verified).2.2.symm.trans (verifyMerkleProof_ok.mp verified').2.2

def PositionedIn (btc : Crate) (chain : HeaderChain) (proof : MerkleProofEntry)
    (position : WitnessPos) : Prop :=
  ∃ header, chain.headerAt proof.blockHeight = some header ∧ LeadsTo btc proof header ∧
    position = ⟨proof.blockHeight, header.time⟩

theorem provenWitnesses_ok {rgb : RgbStd} {chain : HeaderChain} {proofs : List MerkleProofEntry}
    {depth : UInt32} {proven : ProvenWitnesses}
    (passes : provenWitnesses btc rgb chain proofs depth = .ok proven) :
    (∀ entry ∈ proven, ∃ proof ∈ proofs, PositionedIn btc chain proof entry.2) ∧
      ∀ proof ∈ proofs, ∃ entry ∈ proven, PositionedIn btc chain proof entry.2 := by
  have general : ∀ start before,
      (proofs.zipIdx start).foldlM (proveWitness btc rgb chain depth) before = .ok proven →
      ∃ added, proven = before ++ added ∧
        (∀ entry ∈ added, ∃ proof ∈ proofs, PositionedIn btc chain proof entry.2) ∧
        ∀ proof ∈ proofs, ∃ entry ∈ added, PositionedIn btc chain proof entry.2 := by
    clear passes
    induction proofs with
    | nil =>
        rintro start before ⟨⟩
        exact ⟨[], (List.append_nil _).symm, nofun, nofun⟩
    | cons proof proofs ih =>
        intro start before passes
        rw [List.zipIdx_cons, List.foldlM_cons, bind_ok] at passes
        obtain ⟨middle, first, later⟩ := passes
        simp only [proveWitness, bind_ok] at first
        obtain ⟨txid, -, _, verified, header, found, _, -, same⟩ := first
        cases same
        obtain ⟨header', here, leads, -⟩ := verifyOneProof_ok verified
        have sameHeader := (Option.filter_eq_some_iff.mp (okOr_ok.mp found)).1
        rw [here] at sameHeader
        cases sameHeader
        have own : PositionedIn btc chain proof ⟨proof.blockHeight, header.time⟩ :=
          ⟨header, here, leads, rfl⟩
        obtain ⟨added, rfl, known, covered⟩ := ih _ _ later
        refine ⟨_ :: added, List.append_assoc _ _ _, ?_, ?_⟩
        · intro entry member
          rcases List.mem_cons.mp member with rfl | later
          · exact ⟨proof, List.mem_cons_self, own⟩
          · obtain ⟨other, there, positioned⟩ := known entry later
            exact ⟨other, List.mem_cons_of_mem _ there, positioned⟩
        · intro other member
          rcases List.mem_cons.mp member with rfl | later
          · exact ⟨_, List.mem_cons_self, own⟩
          · obtain ⟨entry, there, positioned⟩ := covered other later
            exact ⟨entry, List.mem_cons_of_mem _ there, positioned⟩
  obtain ⟨added, rfl, both⟩ := general 0 [] passes
  exact both

end Coverage

namespace ChainPins

variable {pins pins' : ChainPins} {chain chain' : HeaderChain} {height height' : BlockHeight}
  {depth depth' : UInt32}

theorem lookup_cons_ite (entry : BlockHeight × Pin) (rest : ChainPins) (other : BlockHeight) :
    List.lookup other (entry :: rest)
      = if other = entry.1 then some entry.2 else rest.lookup other := by
  rw [List.lookup_cons]
  by_cases own : other = entry.1
  · rw [if_pos own, beq_iff_eq.mpr own]
  · rw [if_neg own, beq_eq_false_iff_ne.mpr own]

theorem lookup_set (pin : Pin) (pins : ChainPins) (height other : BlockHeight) :
    (set height pin pins).lookup other
      = if other = height then some pin else pins.lookup other := by
  induction pins with
  | nil => exact lookup_cons_ite (height, pin) [] other
  | cons entry rest ih =>
      rw [set]
      split
      · exact lookup_cons_ite (height, pin) (entry :: rest) other
      · split
        · rename_i same
          rw [lookup_cons_ite, lookup_cons_ite, ← same]
          split
          · rfl
          · rfl
        · rename_i different
          rw [lookup_cons_ite, lookup_cons_ite, ih]
          by_cases own : other = height
          · have foreign : other ≠ entry.1 := fun here => different (own.symm.trans here)
            rw [if_neg foreign, if_pos own, if_pos own]
          · rw [if_neg own, if_neg own]

/-- The block that `chain` has at `height` is pinned with at least `depth`. -/
def Holds (pins : ChainPins) (chain : HeaderChain) (height : BlockHeight) (depth : UInt32) : Prop :=
  ∃ pin, pins.lookup height = some pin ∧ chain.hashAt height = some pin.hash ∧ depth ≤ pin.depth

theorem pin_holds (pinned : pins.pin chain height depth = .ok pins') :
    pins'.Holds chain height depth := by
  simp only [pin, bind_ok, refuse_ok, ne_eq, not_not] at pinned
  obtain ⟨hash, found, _, same, whole⟩ := pinned
  cases whole
  refine ⟨_, (lookup_set _ _ _ _).trans (if_pos rfl), ?_, ?_⟩
  · rw [okOr_ok.mp found, same]
  · rw [UInt32.le_iff_toNat_le, toNat_max32]
    exact Nat.le_max_right _ _

theorem Holds.pin (held : pins.Holds chain' height' depth')
    (pinned : pins.pin chain height depth = .ok pins') : pins'.Holds chain' height' depth' := by
  simp only [ChainPins.pin, bind_ok, refuse_ok] at pinned
  obtain ⟨hash, -, -, -, whole⟩ := pinned
  cases whole
  obtain ⟨old, there, hashed, deep⟩ := held
  by_cases here : height' = height
  · subst here
    refine ⟨_, (lookup_set _ _ _ _).trans (if_pos rfl), ?_, ?_⟩
    · rw [hashed, there, Option.getD_some]
    · rw [there, Option.getD_some, UInt32.le_iff_toNat_le, toNat_max32]
      exact (UInt32.le_iff_toNat_le.mp deep).trans (Nat.le_max_left _ _)
  · exact ⟨old, (lookup_set _ _ _ _).trans ((if_neg here).trans there), hashed, deep⟩

section Proofs

variable {proofs : List MerkleProofEntry}

theorem Holds.pin_proofs (held : pins.Holds chain' height' depth')
    (pinned : proofs.foldlM (fun pins proof => ChainPins.pin pins chain proof.blockHeight depth)
      pins = .ok pins') : pins'.Holds chain' height' depth' := by
  induction proofs generalizing pins with
  | nil =>
      cases pinned
      exact held
  | cons proof rest ih =>
      rw [List.foldlM_cons, bind_ok] at pinned
      obtain ⟨middle, first, later⟩ := pinned
      exact ih (held.pin first) later

theorem pin_proofs_hold
    (pinned : proofs.foldlM (fun pins proof => ChainPins.pin pins chain proof.blockHeight depth)
      pins = .ok pins') : ∀ proof ∈ proofs, pins'.Holds chain proof.blockHeight depth := by
  induction proofs generalizing pins with
  | nil => exact fun proof member => absurd member List.not_mem_nil
  | cons proof rest ih =>
      rw [List.foldlM_cons, bind_ok] at pinned
      obtain ⟨middle, first, later⟩ := pinned
      intro other member
      rcases List.mem_cons.mp member with rfl | there
      · exact (pin_holds first).pin_proofs later
      · exact ih later other there

end Proofs

theorem mem_of_lookup {pin : Pin} (found : pins.lookup height = some pin) :
    (height, pin) ∈ pins := by
  induction pins with
  | nil => cases found
  | cons entry rest ih =>
      rw [lookup_cons_ite] at found
      split at found
      · rename_i own
        cases found
        rw [own]
        exact List.mem_cons_self
      · exact List.mem_cons_of_mem _ (ih found)

theorem assertUnchanged_ok (held : pins.Holds chain height depth)
    (unchanged : pins.assertUnchanged chain' = .ok ()) :
    chain'.hashAt height = chain.hashAt height ∧ depth ≤ chain'.tipHeight - height + 1 := by
  obtain ⟨pin, found, hashed, deep⟩ := held
  have good := forM_ok.mp unchanged _ (mem_of_lookup found)
  simp only [assertPin, bind_ok, refuse_ok, UInt32.not_lt] at good
  obtain ⟨_, sameHash, deepNow⟩ := good
  constructor
  · rw [assertPinnedHash] at sameHash
    split at sameHash
    · rename_i current there
      rw [refuse_ok, ne_eq, not_not] at sameHash
      rw [there, hashed, sameHash]
    · cases sameHash
  · rw [UInt32.le_iff_toNat_le] at deep deepNow ⊢
    exact deep.trans deepNow

end ChainPins

section Transport

variable {chain chain' : HeaderChain} {height : BlockHeight} {header : Header}

theorem headersFrom_length (stored : chain.Stored btc)
    (found : chain.headerAt height = some header) :
    (headersFrom chain height).length = (chain.tipHeight - height + 1).toNat := by
  have above := HeaderChain.lt_of_headerAt found
  rw [HeaderChain.headerAt, if_neg (UInt32.not_le.mpr above)] at found
  obtain ⟨inside, -⟩ := List.getElem?_eq_some_iff.mp found
  have short := stored.length
  have low := chain.baseHeight.toNat_lt
  have high := height.toNat_lt
  rw [UInt32.lt_iff_toNat_lt] at above
  rw [headersFrom, List.length_drop]
  simp only [HeaderChain.tipHeight, UInt32.toNat_sub, UInt32.toNat_add, UInt32.toNat_ofNat',
    MAX_STORED_HEADERS, UInt32.toNat_one] at inside short ⊢
  omega

section Pinned

variable {headers : Set Header} {pins : ChainPins} {depth : UInt32}
  (collisionFree : Header.CollisionFree btc headers)
  (stored : chain.Stored btc) (inside : ∀ header ∈ chain.headers, header ∈ headers)
  (stored' : chain'.Stored btc) (inside' : ∀ header ∈ chain'.headers, header ∈ headers)
  (sameBase : chain'.baseHeight = chain.baseHeight)

include collisionFree stored inside stored' inside' sameBase

theorem headerAt_of_pinned (held : pins.Holds chain height depth)
    (found : chain.headerAt height = some header)
    (unchanged : pins.assertUnchanged chain' = .ok ()) : chain'.headerAt height = some header := by
  obtain ⟨sameHash, -⟩ := ChainPins.assertUnchanged_ok held unchanged
  have above := HeaderChain.lt_of_headerAt found
  rw [stored.hashAt_eq above, found, stored'.hashAt_eq (sameBase ▸ above), Option.map_some,
    Option.map_eq_some_iff] at sameHash
  obtain ⟨header', found', sameBlock⟩ := sameHash
  have same : header' = header := Header.eq_of_blockHash_eq btc collisionFree
    (inside' _ (HeaderChain.mem_of_headerAt found'))
    (inside _ (HeaderChain.mem_of_headerAt found)) sameBlock
  rw [found', same]

theorem ProvenIn.of_pinned {proof : MerkleProofEntry}
    (held : pins.Holds chain proof.blockHeight depth)
    (found : chain.headerAt proof.blockHeight = some header) (leads : LeadsTo btc proof header)
    (unchanged : pins.assertUnchanged chain' = .ok ()) : ProvenIn btc chain' depth proof := by
  have found' := headerAt_of_pinned collisionFree stored inside stored' inside' sameBase held found
    unchanged
  obtain ⟨-, deep⟩ := ChainPins.assertUnchanged_ok held unchanged
  refine ⟨header, found', leads, ?_⟩
  rw [headersFrom_length stored' found']
  exact UInt32.le_iff_toNat_le.mp deep

end Pinned

end Transport

theorem validateSourceChain_ok {chain : HeaderChain} {validated : ValidatedConsignment}
    {proofs : List MerkleProofEntry} {now : SystemTime} {pins pins' : ChainPins} {depth : UInt32}
    (passes : validateSourceChain btc chain (some validated) proofs now pins depth = .ok pins') :
    (∀ txid ∈ validated.witnessTxids, ∃ proof ∈ proofs, proof.txid = txid.val) ∧
      ∀ proof ∈ proofs, pins'.Holds chain proof.blockHeight depth ∧
        ∃ header, chain.headerAt proof.blockHeight = some header ∧ LeadsTo btc proof header := by
  simp only [validateSourceChain, bind_ok] at passes
  obtain ⟨_, same, _, -, _, -, _, proven, pinned⟩ := passes
  cases same
  obtain ⟨covered, each⟩ := validateSpvProofs_ok proven
  refine ⟨covered, fun proof member => ⟨ChainPins.pin_proofs_hold pinned proof member, ?_⟩⟩
  obtain ⟨header, found, leads, -⟩ := each proof member
  exact ⟨header, found, leads⟩

end EnclaveSigner.Rgb
