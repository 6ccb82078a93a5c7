import EnclaveSigner.Lib.Bytes
import EnclaveSigner.Lib.Checks

/-! # Readers

A reader takes a value off the front of a byte string and leaves the rest. It
inverts a writer when it takes off exactly what the writer puts there: then a
written value is read back, and whatever is read was written. Readers that invert
their writers one by one also do so one after another.
-/

namespace EnclaveSigner.Lib

abbrev Reader (ε : Type) := StateT Bytes (Except ε)

namespace Reader

variable {ε α β : Type}

def byte (short : ε) : Reader ε UInt8
  | [] => .error short
  | byte :: rest => .ok (byte, rest)

def take (short : ε) (n : Nat) : Reader ε Bytes := fun bytes =>
  if bytes.length < n then .error short else .ok (bytes.take n, bytes.drop n)

def word (short : ε) (n : Nat) : Reader ε (Word n) := do
  let head ← take short n
  okOr short (Word.ofBytes? n head)

def number (short : ε) (n : Nat) (ofNat : Nat → α) : Reader ε α := do
  let bytes ← word short n
  pure (ofNat (ofBe bytes.val))

def tagged (short unknown : ε) (decode : UInt8 → Option α) : Reader ε α := do
  let tag ← byte short
  okOr unknown (decode tag)

def optional (present : Reader ε Bool) (read : Reader ε α) : Reader ε (Option α) := do
  if ← present then
    let value ← read
    pure (some value)
  else pure none

/-- `read` takes off exactly what `write` puts in front, for the values that
    fit. -/
def Inverts (read : Reader ε α) (fits : α → Prop) (write : α → Bytes) : Prop :=
  ∀ (bytes : Bytes) (value : α) (rest : Bytes),
    read bytes = .ok (value, rest) ↔ fits value ∧ bytes = write value ++ rest

theorem bind_eq_ok {read : Reader ε α} {next : α → Reader ε β} {bytes : Bytes}
    {result : β × Bytes} :
    (read >>= next) bytes = .ok result ↔
      ∃ value rest, read bytes = .ok (value, rest) ∧ next value rest = .ok result := by
  change (read bytes >>= fun taken => next taken.1 taken.2) = .ok result ↔ _
  rw [bind_ok, Prod.exists]

theorem lift_eq_ok {x : Except ε α} {bytes : Bytes} {value : α} {rest : Bytes} :
    (liftM x : Reader ε α) bytes = .ok (value, rest) ↔ x = .ok value ∧ rest = bytes := by
  change (x >>= fun value => Except.ok (value, bytes)) = _ ↔ _
  rw [bind_ok]
  constructor
  · rintro ⟨a, done, same⟩
    cases same
    exact ⟨done, rfl⟩
  · rintro ⟨done, rfl⟩
    exact ⟨value, done, rfl⟩

theorem pure_eq_ok {value : α} {bytes : Bytes} {result : α × Bytes} :
    (pure value : Reader ε α) bytes = .ok result ↔ result = (value, bytes) := by
  constructor
  · rintro ⟨⟩
    rfl
  · rintro rfl
    rfl

section Inverts

variable {read : Reader ε α} {fits : α → Prop} {write : α → Bytes}

theorem Inverts.bind_eq_ok (inverts : Inverts read fits write) {next : α → Reader ε β}
    {bytes : Bytes} {result : β × Bytes} :
    (read >>= next) bytes = .ok result ↔
      ∃ value rest, (fits value ∧ bytes = write value ++ rest) ∧ next value rest = .ok result := by
  rw [Reader.bind_eq_ok]
  simp only [inverts bytes]

theorem byte_inverts (short : ε) : Inverts (byte short) (fun _ => True) fun byte => [byte] := by
  intro bytes value rest
  cases bytes with
  | nil => exact ⟨nofun, fun same => nomatch same.2⟩
  | cons head tail =>
      constructor
      · rintro ⟨⟩
        exact ⟨trivial, rfl⟩
      · rintro ⟨-, same⟩
        cases same
        rfl

theorem take_eq_ok {short : ε} {n : Nat} {bytes head rest : Bytes} :
    take short n bytes = .ok (head, rest) ↔ head.length = n ∧ bytes = head ++ rest := by
  unfold take
  split
  · rename_i few
    constructor
    · intro impossible
      cases impossible
    · rintro ⟨length, rfl⟩
      rw [List.length_append] at few
      omega
  · rename_i enough
    constructor
    · intro same
      cases same
      exact ⟨by rw [List.length_take]; omega, (List.take_append_drop n bytes).symm⟩
    · rintro ⟨length, rfl⟩
      rw [List.take_left' length, List.drop_left' length]

theorem word_inverts (short : ε) (n : Nat) :
    Inverts (word short n) (fun _ => True) fun word => word.val := by
  intro bytes value rest
  rw [word, bind_eq_ok]
  simp only [take_eq_ok, lift_eq_ok, okOr_ok, Word.ofBytes?_eq_some]
  constructor
  · rintro ⟨head, tail, ⟨-, rfl⟩, rfl, rfl⟩
    exact ⟨trivial, rfl⟩
  · rintro ⟨-, rfl⟩
    exact ⟨value.val, rest, ⟨value.property, rfl⟩, rfl, rfl⟩

theorem number_inverts {short : ε} {n : Nat} {ofNat : Nat → α} {toNat : α → Nat}
    (back : ∀ value, ofNat (toNat value) = value) (small : ∀ value, toNat value < 256 ^ n)
    (forth : ∀ number < 256 ^ n, toNat (ofNat number) = number) :
    Inverts (number short n ofNat) (fun _ => True) fun value => natBe n (toNat value) := by
  intro bytes value rest
  rw [number, (word_inverts short n).bind_eq_ok]
  simp only [pure_eq_ok, Prod.mk.injEq, true_and]
  constructor
  · rintro ⟨word, tail, rfl, rfl, rfl⟩
    have bound : ofBe word.val < 256 ^ n := by
      simpa only [word.property] using ofBe_lt word.val
    rw [forth _ bound, natBe_ofBe]
  · rintro rfl
    refine ⟨Word.ofNatBe n (toNat value), rest, rfl, ?_, rfl⟩
    rw [Word.ofNatBe, ofBe_natBe (small value), back]

theorem tagged_inverts {short unknown : ε} {decode : UInt8 → Option α} {encode : α → UInt8}
    (inverse : ∀ tag value, decode tag = some value ↔ tag = encode value) :
    Inverts (tagged short unknown decode) (fun _ => True) fun value => [encode value] := by
  intro bytes value rest
  rw [tagged, (byte_inverts short).bind_eq_ok]
  simp only [lift_eq_ok, okOr_ok, inverse, true_and]
  constructor
  · rintro ⟨tag, tail, rfl, rfl, rfl⟩
    rfl
  · rintro rfl
    exact ⟨encode value, rest, rfl, rfl, rfl⟩

def writeOption (flag : Bool → Bytes) (write : α → Bytes) : Option α → Bytes
  | some value => flag true ++ write value
  | none => flag false

theorem optional_inverts {present : Reader ε Bool} {flag : Bool → Bytes}
    (flagged : Inverts present (fun _ => True) flag) (inverts : Inverts read fits write) :
    Inverts (optional present read) (fun value => ∀ inner ∈ value, fits inner)
      (writeOption flag write) := by
  intro bytes value rest
  rw [optional, flagged.bind_eq_ok]
  constructor
  · rintro ⟨there, tail, ⟨-, rfl⟩, done⟩
    cases there with
    | false =>
        cases pure_eq_ok.mp done
        exact ⟨nofun, rfl⟩
    | true =>
        obtain ⟨inner, tail, ⟨good, rfl⟩, ends⟩ := inverts.bind_eq_ok.mp done
        cases pure_eq_ok.mp ends
        refine ⟨?_, (List.append_assoc _ _ _).symm⟩
        rintro _ ⟨⟩
        exact good
  · rintro ⟨good, rfl⟩
    cases value with
    | none => exact ⟨false, rest, ⟨trivial, rfl⟩, rfl⟩
    | some inner =>
        refine ⟨true, write inner ++ rest, ⟨trivial, List.append_assoc _ _ _⟩, ?_⟩
        exact inverts.bind_eq_ok.mpr ⟨inner, rest, ⟨good inner rfl, rfl⟩, rfl⟩

/-- A record is read field by field. What is known of it are the fields read so
    far. -/
theorem Inverts.field (inverts : Inverts read fits write) (get : β → α) {next : α → Reader ε β}
    {known fitsRest : β → Prop} {writeRest : β → Bytes}
    (others : ∀ value, Inverts (next value)
      (fun record => (get record = value ∧ known record) ∧ fitsRest record) writeRest) :
    Inverts (read >>= next) (fun record => known record ∧ fits (get record) ∧ fitsRest record)
      fun record => write (get record) ++ writeRest record := by
  intro bytes record rest
  rw [inverts.bind_eq_ok]
  constructor
  · rintro ⟨value, tail, ⟨good, rfl⟩, done⟩
    obtain ⟨⟨⟨rfl, before⟩, after⟩, rfl⟩ := (others value _ _ _).mp done
    exact ⟨⟨before, good, after⟩, (List.append_assoc _ _ _).symm⟩
  · rintro ⟨⟨before, good, after⟩, rfl⟩
    refine ⟨get record, writeRest record ++ rest, ⟨good, List.append_assoc _ _ _⟩, ?_⟩
    exact (others _ _ _ _).mpr ⟨⟨⟨rfl, before⟩, after⟩, rfl⟩

/-- With every field read, the record is known. -/
theorem Inverts.record {whole : β} {known : β → Prop}
    (all : ∀ record, known record ↔ record = whole) :
    Inverts (pure whole : Reader ε β) (fun record => known record ∧ True) fun _ => [] := by
  intro bytes record rest
  change _ ↔ (known record ∧ True) ∧ bytes = rest
  rw [pure_eq_ok, Prod.mk.injEq, all, and_true]
  exact and_congr_right fun _ => eq_comm

/-- At the start nothing is known. -/
theorem Inverts.ofFields (inverts : Inverts read (fun record => True ∧ fits record) write)
    {fits' : α → Prop} {write' : α → Bytes} (sameFits : ∀ record, fits record ↔ fits' record)
    (sameWrite : ∀ record, fits' record → write record = write' record) :
    Inverts read fits' write' := by
  intro bytes record rest
  simp only [inverts bytes, true_and, sameFits]
  exact and_congr_right fun good => by rw [sameWrite record good]

end Inverts

end Reader

end EnclaveSigner.Lib
