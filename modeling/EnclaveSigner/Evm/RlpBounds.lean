import EnclaveSigner.Evm.RlpCanonical

/-! # The reads of the RLP decoder

The decoder of the source indexes its buffer, and a read outside of it would
stop the enclave. Here every read is explicit and can fail. The decoder with
explicit reads is the one that is modelled as total, so no read fails.
-/

namespace EnclaveSigner.Evm.Gas

open Lib

/-- How a run with explicit reads can end early. -/
inductive Fault where
  | refused (error : EnclaveError)
  | outOfBounds
  deriving DecidableEq

namespace Indexed

def slice (buf : Bytes) (start stop : Nat) : Except Fault Bytes :=
  if start ≤ stop ∧ stop ≤ buf.length then .ok ((buf.take stop).drop start)
  else .error .outOfBounds

def byteAt (buf : Bytes) (index : Nat) : Except Fault UInt8 := okOr .outOfBounds buf[index]?

def refuseWith (bad : Prop) [Decidable bad] (msg : String) : Except Fault Unit :=
  refuse bad (.refused (reject msg))

abbrev Decoder := EStateM Fault Nat

def readLongLen (buf : Bytes) (lenOfLen : UInt8) : Except Fault (UInt64 × Nat) := do
  let header := 1 + lenOfLen.toNat
  refuseWith (buf.length < header) "rlp: length header truncated"
  let lenBytes ← slice buf 1 header
  let first ← byteAt lenBytes 0
  refuseWith (first = 0) "rlp: non-canonical length (leading zero)"
  let len ← lenBytes.foldlM (fun (len : UInt64) b =>
    okOr (.refused (reject "rlp: length exceeds usize"))
      (checkedAdd64 (len <<< 8) b.toUInt64)) 0
  refuseWith (len ≤ 55) "rlp: non-canonical long form for short payload"
  pure (len, header)

def longEnd (header : Nat) (len : UInt64) : Except Fault Nat :=
  (Gas.longEnd header len).mapError .refused

def takeItem : Decoder Unit := do
  let itemsLeft ← get
  refuseWith (itemsLeft = 0) s!"rlp: more than {MAX_RLP_ITEMS} items"
  set (itemsLeft - 1)

def decodeList (decodeItem : Bytes → Decoder (Rlp × Nat)) : Nat → Bytes → Decoder (List Rlp)
  | _, [] => pure []
  | 0, _ :: _ => throw (.refused (reject "rlp: unexpected end of input"))
  | fuel + 1, buf => do
      let (item, used) ← decodeItem buf
      let rest ← slice buf used buf.length
      let items ← decodeList decodeItem fuel rest
      pure (item :: items)

/-- A single byte below `0x80` must be encoded as itself. -/
def refuseSingle (len : Nat) (payload : Bytes) : Except Fault Unit :=
  if len = 1 then do
    let first ← byteAt payload 0
    refuseWith (first < 0x80) "rlp: non-canonical single-byte string"
  else pure ()

def decodeOne : Nat → Bytes → Decoder (Rlp × Nat)
  | 0, _ => throw (.refused (reject "rlp: nesting too deep"))
  | levels + 1, buf => do
      takeItem
      let b0 ← okOr (Fault.refused (reject "rlp: unexpected end of input")) buf.head?
      if b0 ≤ 0x7f then do
        let bytes ← slice buf 0 1
        pure (.str bytes, 1)
      else if b0 ≤ 0xb7 then do
        let len := (b0 - 0x80).toNat
        let stop := 1 + len
        refuseWith (buf.length < stop) "rlp: short string truncated"
        let payload ← slice buf 1 stop
        refuseSingle len payload
        pure (.str payload, stop)
      else if b0 ≤ 0xbf then do
        let (len, header) ← readLongLen buf (b0 - 0xb7)
        let stop ← longEnd header len
        refuseWith (buf.length < stop) "rlp: long string truncated"
        let payload ← slice buf header stop
        pure (.str payload, stop)
      else if b0 ≤ 0xf7 then do
        let stop := 1 + (b0 - 0xc0).toNat
        refuseWith (buf.length < stop) "rlp: short list truncated"
        let payload ← slice buf 1 stop
        let items ← decodeList (decodeOne levels) buf.length payload
        pure (.list items, stop)
      else do
        let (len, header) ← readLongLen buf (b0 - 0xf7)
        let stop ← longEnd header len
        refuseWith (buf.length < stop) "rlp: long list truncated"
        let payload ← slice buf header stop
        let items ← decodeList (decodeOne levels) buf.length payload
        pure (.list items, stop)

/-- `decodeCanonical` with its reads explicit. -/
def decodeCanonical (buf : Bytes) : Except Fault Rlp :=
  match decodeOne (MAX_RLP_DEPTH + 1) buf MAX_RLP_ITEMS with
  | .error e _ => .error e
  | .ok (item, used) _ => do
      refuseWith (used ≠ buf.length) "rlp: trailing bytes after top-level item"
      pure item

end Indexed

section Mirror

variable {α β : Type}

/-- The outcome of a run without reads, as one of a run with reads. -/
def refusing : EStateM.Result EnclaveError Nat α → EStateM.Result Fault Nat α
  | .ok value itemsLeft => .ok value itemsLeft
  | .error e itemsLeft => .error (.refused e) itemsLeft

/-- The run with explicit reads ends like the run without. -/
def Mirrors (indexed : Indexed.Decoder α) (total : Decoder α) (itemsLeft : Nat) : Prop :=
  indexed itemsLeft = refusing (total itemsLeft)

theorem Mirrors.bind {x' : Indexed.Decoder α} {x : Decoder α} {f' : α → Indexed.Decoder β}
    {f : α → Decoder β} {s : Nat} (first : Mirrors x' x s)
    (rest : ∀ a s', x s = .ok a s' → Mirrors (f' a) (f a) s') :
    Mirrors (x' >>= f') (x >>= f) s := by
  unfold Mirrors at first ⊢
  change EStateM.bind x' f' s = refusing (EStateM.bind x f s)
  unfold EStateM.bind
  rw [first]
  cases ran : x s with
  | error e s' => rfl
  | ok a s' => exact rest a s' ran

theorem mirrors_pure (a : α) (s : Nat) : Mirrors (pure a) (pure a) s := rfl

theorem mirrors_lift {x' : Except Fault α} {x : Result α}
    (same : x' = x.mapError .refused) (s : Nat) :
    Mirrors (liftM x' : Indexed.Decoder α) (liftM x : Decoder α) s := by
  subst same
  cases x with
  | error e => rfl
  | ok a => rfl

theorem mirrors_read {x' : Except Fault α} {a : α} {f' : α → Indexed.Decoder β} {x : Decoder β}
    {s : Nat} (read : x' = .ok a) (rest : Mirrors (f' a) x s) :
    Mirrors ((liftM x' : Indexed.Decoder α) >>= f') x s := by
  subst read
  exact rest

theorem bind_mapError {ε ε' : Type} {g : ε → ε'} {x' : Except ε' α} {x : Except ε α}
    {f' : α → Except ε' β} {f : α → Except ε β} (first : x' = x.mapError g)
    (rest : ∀ a, x = .ok a → f' a = (f a).mapError g) :
    (x' >>= f') = (x >>= f).mapError g := by
  subst first
  cases x with
  | error e => rfl
  | ok a => exact rest a rfl

theorem refuseWith_eq (bad : Prop) [Decidable bad] (msg : String) :
    Indexed.refuseWith bad msg = (refuse bad (reject msg)).mapError .refused := by
  unfold Indexed.refuseWith refuse
  split <;> rfl

theorem mirrors_refuse (bad : Prop) [Decidable bad] (msg : String) (s : Nat) :
    Mirrors (liftM (Indexed.refuseWith bad msg)) (liftM (refuse bad (reject msg))) s := by
  exact mirrors_lift (refuseWith_eq bad msg) s

theorem slice_ok {buf : Bytes} {start stop : Nat} (ordered : start ≤ stop)
    (inside : stop ≤ buf.length) :
    Indexed.slice buf start stop = .ok ((buf.take stop).drop start) :=
  if_pos ⟨ordered, inside⟩

theorem byteAt_zero {buf : Bytes} (nonempty : 0 < buf.length) :
    Indexed.byteAt buf 0 = .ok (buf.headD 0) := by
  cases buf with
  | nil => cases nonempty
  | cons byte rest => rfl

theorem foldlM_refused {error : EnclaveError} (digits : Bytes) (v : UInt64) :
    digits.foldlM (fun (len : UInt64) b =>
        okOr (Fault.refused error) (checkedAdd64 (len <<< 8) b.toUInt64)) v
      = (digits.foldlM (fun (len : UInt64) b =>
          okOr error (checkedAdd64 (len <<< 8) b.toUInt64)) v).mapError .refused := by
  induction digits generalizing v with
  | nil => rfl
  | cons b rest ih =>
      rw [List.foldlM_cons, List.foldlM_cons]
      cases checkedAdd64 (v <<< 8) b.toUInt64 with
      | none => rfl
      | some next => exact ih next

theorem readLongLen_mirrors {buf : Bytes} {lenOfLen : UInt8} (positive : 0 < lenOfLen.toNat) :
    Indexed.readLongLen buf lenOfLen = (readLongLen buf lenOfLen).mapError .refused := by
  refine bind_mapError (refuseWith_eq _ _) fun _ untruncated => ?_
  have fits := Nat.not_lt.mp (refuse_ok.mp untruncated)
  have nonempty : 0 < ((buf.take (1 + lenOfLen.toNat)).drop 1).length := by
    rw [List.length_drop, List.length_take]
    omega
  rw [slice_ok (Nat.le_add_right 1 _) fits]
  change (Indexed.byteAt _ 0 >>= _) = _
  rw [byteAt_zero nonempty]
  refine bind_mapError (refuseWith_eq _ _) fun _ _ => ?_
  refine bind_mapError (foldlM_refused _ _) fun len _ => ?_
  exact bind_mapError (refuseWith_eq _ _) fun _ _ => rfl

theorem longEnd_le {header stop : Nat} {len : UInt64} (ends : longEnd header len = .ok stop) :
    header ≤ stop := by
  unfold longEnd at ends
  split at ends
  · cases ends
    exact Nat.le_add_right _ _
  · cases ends

theorem refuseSingle_eq {len : Nat} {payload : Bytes} (length : payload.length = len) :
    Indexed.refuseSingle len payload
      = (refuse (len = 1 ∧ payload.headD 0 < 0x80)
          (reject "rlp: non-canonical single-byte string")).mapError .refused := by
  unfold Indexed.refuseSingle
  by_cases single : len = 1
  · rw [if_pos single, byteAt_zero (by omega), ← refuseWith_eq]
    simp only [single, true_and]
    rfl
  · rw [if_neg single, refuse, if_neg fun both => single both.1]
    rfl

theorem takeItem_mirrors (s : Nat) : Mirrors Indexed.takeItem takeItem s := by
  cases s with
  | zero => rfl
  | succ left => rfl

theorem decodeList_mirrors {levels : Nat}
    (each : ∀ buf s, Mirrors (Indexed.decodeOne levels buf) (decodeOne levels buf) s) (fuel : Nat)
    (buf : Bytes) (s : Nat) :
    Mirrors (Indexed.decodeList (Indexed.decodeOne levels) fuel buf)
      (decodeList (decodeOne levels) fuel buf) s := by
  induction fuel generalizing buf s with
  | zero =>
      cases buf with
      | nil => rfl
      | cons byte rest => rfl
  | succ fuel ih =>
      cases buf with
      | nil => rfl
      | cons byte rest =>
          refine (each (byte :: rest) s).bind fun (item, used) middle read => ?_
          have inside : used ≤ (byte :: rest).length := by
            cases levels with
            | zero => cases read
            | succ levels => exact (decodeOne_ok read).1
          refine mirrors_read (slice_ok inside (Nat.le_refl _)) ?_
          rw [List.take_length]
          exact (ih _ middle).bind fun items _ _ => mirrors_pure _ _

theorem decodeOne_mirrors (levels : Nat) (buf : Bytes) (s : Nat) :
    Mirrors (Indexed.decodeOne levels buf) (decodeOne levels buf) s := by
  induction levels generalizing buf s with
  | zero => rfl
  | succ levels ih =>
      refine (takeItem_mirrors s).bind fun _ middle _ => ?_
      have head : okOr (Fault.refused (reject "rlp: unexpected end of input")) buf.head?
          = (okOr (reject "rlp: unexpected end of input") buf.head?).mapError .refused := by
        cases buf.head? with
        | none => rfl
        | some byte => rfl
      refine (mirrors_lift head middle).bind fun b0 _ first => ?_
      have nonempty : 0 < buf.length := by
        obtain ⟨rest, rfl⟩ := List.head?_eq_some_iff.mp (okOr_ok.mp (lift_ok.mp first).1)
        exact Nat.zero_lt_succ _
      simp only [UInt8.le_iff_toNat_le, UInt8.reduceToNat]
      split_ifs with single shortStr longStr shortList
      · exact mirrors_read (slice_ok (Nat.zero_le 1) nonempty) (mirrors_pure _ _)
      · refine (mirrors_refuse _ _ _).bind fun _ _ whole => ?_
        have fits := Nat.not_lt.mp (refuse_ok.mp (lift_ok.mp whole).1)
        refine mirrors_read (slice_ok (Nat.le_add_right 1 _) fits) ?_
        have length : ((buf.take (1 + (b0 - 0x80).toNat)).drop 1).length = (b0 - 0x80).toNat := by
          rw [List.length_drop, List.length_take]
          omega
        exact (mirrors_lift (refuseSingle_eq length) _).bind fun _ _ _ => mirrors_pure _ _
      · have value : (b0 - 0xb7).toNat = b0.toNat - 0xb7 :=
          UInt8.toNat_sub_of_le b0 0xb7 (UInt8.le_iff_toNat_le.mpr (Nat.not_le.mp shortStr).le)
        refine (mirrors_lift (readLongLen_mirrors (by omega)) _).bind ?_
        rintro ⟨len, header⟩ _ _
        refine (mirrors_lift rfl _).bind fun stop _ ended => ?_
        refine (mirrors_refuse _ _ _).bind fun _ _ whole => ?_
        have fits := Nat.not_lt.mp (refuse_ok.mp (lift_ok.mp whole).1)
        exact mirrors_read (slice_ok (longEnd_le (lift_ok.mp ended).1) fits) (mirrors_pure _ _)
      · refine (mirrors_refuse _ _ _).bind fun _ _ whole => ?_
        have fits := Nat.not_lt.mp (refuse_ok.mp (lift_ok.mp whole).1)
        refine mirrors_read (slice_ok (Nat.le_add_right 1 _) fits) ?_
        exact (decodeList_mirrors ih _ _ _).bind fun _ _ _ => mirrors_pure _ _
      · have value : (b0 - 0xf7).toNat = b0.toNat - 0xf7 :=
          UInt8.toNat_sub_of_le b0 0xf7 (UInt8.le_iff_toNat_le.mpr (Nat.not_le.mp shortList).le)
        refine (mirrors_lift (readLongLen_mirrors (by omega)) _).bind ?_
        rintro ⟨len, header⟩ _ _
        refine (mirrors_lift rfl _).bind fun stop _ ended => ?_
        refine (mirrors_refuse _ _ _).bind fun _ _ whole => ?_
        have fits := Nat.not_lt.mp (refuse_ok.mp (lift_ok.mp whole).1)
        refine mirrors_read (slice_ok (longEnd_le (lift_ok.mp ended).1) fits) ?_
        exact (decodeList_mirrors ih _ _ _).bind fun _ _ _ => mirrors_pure _ _

theorem decodeCanonical_mirrors (buf : Bytes) :
    Indexed.decodeCanonical buf = (decodeCanonical buf).mapError .refused := by
  unfold Indexed.decodeCanonical decodeCanonical
  rw [decodeOne_mirrors (MAX_RLP_DEPTH + 1) buf MAX_RLP_ITEMS]
  cases decodeOne (MAX_RLP_DEPTH + 1) buf MAX_RLP_ITEMS with
  | error e left => rfl
  | ok result left => exact bind_mapError (refuseWith_eq _ _) fun _ _ => rfl

end Mirror

/-- The decoder takes exactly the canonical encodings within its limits, each as
    its item. So no two byte strings decode to one item, and no byte string to
    two. No read is outside of the buffer. -/
theorem decodes_exactly_canonical_rlp (buf : Bytes) (short : buf.length < 2 ^ 64) (item : Rlp) :
    (decodeCanonical buf = .ok item ↔
      buf = item.encode ∧ item.height ≤ MAX_RLP_DEPTH ∧ item.count ≤ MAX_RLP_ITEMS) ∧
    (∀ other : Bytes, decodeCanonical buf = .ok item → decodeCanonical other = .ok item →
      buf = other) ∧
    (∀ other : Rlp, buf = item.encode → buf = other.encode → item = other) ∧
    Indexed.decodeCanonical buf = (decodeCanonical buf).mapError .refused ∧
    Indexed.decodeCanonical buf ≠ .error .outOfBounds := by
  refine ⟨⟨?_, ?_⟩, ?_, ?_, decodeCanonical_mirrors buf, ?_⟩
  · exact decodeCanonical_ok
  · rintro ⟨rfl, shallow, few⟩
    exact decodeCanonical_of_encode short shallow few
  · intro other decoded decodedOther
    rw [(decodeCanonical_ok decoded).1, (decodeCanonical_ok decodedOther).1]
  · rintro other rfl same
    refine (Rlp.encode_parts ?_ (congrArg (· ++ []) same)).1
    rwa [List.append_nil]
  · rw [decodeCanonical_mirrors]
    cases decodeCanonical buf with
    | error e => exact fun same => nomatch same
    | ok decoded => exact fun same => nomatch same

/-- A list with an empty string and a nested list. -/
theorem decodes_exactly_canonical_rlp_nested :
    decodeCanonical [0xc4, 0x80, 0xc2, 0x07, 0xc0]
        = .ok (.list [.str [], .list [.str [0x07], .list []]]) ∧
      Indexed.decodeCanonical [0xc4, 0x80, 0xc2, 0x07, 0xc0] ≠ .error .outOfBounds := by
  obtain ⟨canonical, -, -, -, inside⟩ :=
    decodes_exactly_canonical_rlp [0xc4, 0x80, 0xc2, 0x07, 0xc0] (by decide)
      (.list [.str [], .list [.str [0x07], .list []]])
  exact ⟨canonical.mpr ⟨by decide, by decide, by decide⟩, inside⟩

end EnclaveSigner.Evm.Gas
