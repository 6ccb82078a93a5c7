import EnclaveSigner.Kms.Ber

/-! # The BER values that the parser accepts

A grammar for one value, beside the parser: the identifier octets, the three
forms of the length octets, and the contents with a length or with the
end-of-contents octets. The parser reads a value exactly if it follows the
grammar, and returns its tree with every string joined.
-/

namespace EnclaveSigner.Kms

open Lib

section Tags

variable {input tag rest middle : Bytes} {last : UInt8} {n room : Nat}

/-- The identifier octets: one for a low tag number. A high one goes on while the
    top bit of an octet is set. -/
inductive TagOk : Bytes → Prop where
  | low {first : UInt8} : first &&& 0x1F ≠ 0x1F → TagOk [first]
  | high {first last : UInt8} {middle : Bytes} : first &&& 0x1F = 0x1F →
      (∀ octet ∈ middle, octet &&& 0x80 ≠ 0) → last &&& 0x80 = 0 →
      middle.length + 2 ≤ MAX_TAG_BYTES → TagOk (first :: (middle ++ [last]))

theorem tagTail_append (more : ∀ octet ∈ middle, octet &&& 0x80 ≠ 0) (ends : last &&& 0x80 = 0)
    (fits : middle.length < room) (rest : Bytes) :
    tagTail room (middle ++ last :: rest) = some (middle.length + 1) := by
  induction middle generalizing room with
  | nil =>
      obtain ⟨room, rfl⟩ := Nat.exists_eq_add_one.mpr fits
      exact if_pos ends
  | cons octet middle ih =>
      obtain ⟨room, rfl⟩ := Nat.exists_eq_add_one.mpr (Nat.zero_lt_of_lt fits)
      have inner := ih (fun octet member => more octet (List.mem_cons_of_mem _ member))
        (Nat.lt_of_succ_lt_succ fits)
      rw [List.cons_append, tagTail, if_neg (more octet List.mem_cons_self), inner]
      rfl

theorem tagTail_some (read : tagTail room input = some n) :
    ∃ middle last rest, input = middle ++ last :: rest ∧ n = middle.length + 1 ∧ n ≤ room ∧
      (∀ octet ∈ middle, octet &&& 0x80 ≠ 0) ∧ last &&& 0x80 = 0 := by
  induction room generalizing input n with
  | zero => cases input <;> cases read
  | succ room ih =>
      cases input with
      | nil => cases read
      | cons octet tail =>
          rw [tagTail] at read
          split at read
          · rename_i ends
            cases read
            exact ⟨[], octet, tail, rfl, rfl, Nat.le_add_left _ _, nofun, ends⟩
          · rename_i more
            obtain ⟨m, inner, rfl⟩ := Option.map_eq_some_iff.mp read
            obtain ⟨middle, last, rest, rfl, rfl, fits, each, ends⟩ := ih inner
            exact ⟨octet :: middle, last, rest, rfl, rfl, Nat.succ_le_succ fits,
              List.forall_mem_cons.mpr ⟨more, each⟩, ends⟩

theorem TagOk.tagLength (ok : TagOk tag) (rest : Bytes) :
    tagLength (tag ++ rest) = some tag.length := by
  cases ok with
  | low short => exact if_neg short
  | @high first last middle long more ends fits =>
      have room : middle.length < MAX_TAG_BYTES - 1 := Nat.le_of_succ_le_succ fits
      rw [List.cons_append, List.append_assoc, List.singleton_append, Kms.tagLength, if_pos long,
        tagTail_append more ends room, Option.map_some, List.length_cons, List.length_append,
        List.length_singleton]

theorem tagLength_some (read : tagLength input = some n) :
    ∃ tag rest, input = tag ++ rest ∧ n = tag.length ∧ TagOk tag := by
  cases input with
  | nil => cases read
  | cons first tail =>
      rw [tagLength] at read
      split at read
      · rename_i long
        obtain ⟨m, inner, rfl⟩ := Option.map_eq_some_iff.mp read
        obtain ⟨middle, last, rest, rfl, rfl, fits, more, ends⟩ := tagTail_some inner
        refine ⟨first :: (middle ++ [last]), rest, ?_, ?_,
          .high long more ends (Nat.succ_le_succ fits)⟩
        · rw [List.cons_append, List.append_assoc, List.singleton_append]
        · rw [List.length_cons, List.length_append, List.length_singleton]
      · rename_i short
        cases read
        exact ⟨[first], tail, rfl, rfl, .low short⟩

theorem TagOk.length_pos (ok : TagOk tag) : 0 < tag.length := by
  cases ok <;> exact Nat.succ_pos _

theorem TagOk.short (ok : TagOk tag) (single : tag.length = 1) :
    ∃ first, tag = [first] ∧ first &&& 0x1F ≠ 0x1F := by
  cases ok with
  | low short => exact ⟨_, rfl, short⟩
  | high =>
      rw [List.length_cons, List.length_append, List.length_singleton] at single
      omega

end Tags

section Lengths

variable {bytes octets : Bytes} {length : Option Nat} {n : Nat}

/-- The length octets, and `none` for the indefinite form. -/
inductive LengthOctets : Option Nat → Bytes → Prop where
  | short {len : Nat} : len < 128 → LengthOctets (some len) [UInt8.ofNat len]
  | long {first : UInt8} {digits : Bytes} : first ≠ 0 → digits.length < MAX_LENGTH_BYTES →
      LengthOctets (some (ofBe (first :: digits)))
        ((0x80 ||| UInt8.ofNat (digits.length + 1)) :: first :: digits)
  | indefinite : LengthOctets none [0x80]

theorem lengthOctet (k : Nat) (few : k < 9) (positive : 0 < k) :
    ¬ (0x80 ||| UInt8.ofNat k) < 0x80 ∧ (0x80 ||| UInt8.ofNat k) ≠ 0x80 ∧
      ((0x80 ||| UInt8.ofNat k) &&& 0x7F).toNat = k := by
  revert k
  decide

theorem lengthOctet_eq {l : UInt8} (above : ¬ l < 0x80) :
    0x80 ||| UInt8.ofNat (l &&& 0x7F).toNat = l := by
  have each : ∀ k < 256, ¬ UInt8.ofNat k < 0x80 →
      0x80 ||| UInt8.ofNat (UInt8.ofNat k &&& 0x7F).toNat = UInt8.ofNat k := by decide +kernel
  have here := each l.toNat l.toNat_lt
  rw [UInt8.ofNat_toNat] at here
  exact here above

theorem LengthOctets.parseLength (form : LengthOctets length octets) (rest : Bytes) :
    parseLength (octets ++ rest) = some (length, octets.length) := by
  cases form with
  | @short len short =>
      have value : (UInt8.ofNat len).toNat = len := by
        rw [UInt8.toNat_ofNat']
        exact Nat.mod_eq_of_lt (Nat.lt_trans short (by decide))
      have below : UInt8.ofNat len < 0x80 := UInt8.lt_iff_toNat_lt.mpr (value.symm ▸ short)
      rw [List.singleton_append, Kms.parseLength, if_pos below, value]
      rfl
  | @long first digits nonzero few =>
      rw [MAX_LENGTH_BYTES] at few
      obtain ⟨above, other, count⟩ := lengthOctet (digits.length + 1) (by omega) (Nat.succ_pos _)
      have whole : (first :: digits ++ rest).take (digits.length + 1) = first :: digits :=
        List.take_left' rfl
      have front : (first :: digits ++ rest).headD 0 ≠ 0 := nonzero
      have enough : ¬ (first :: digits ++ rest).length < digits.length + 1 := by
        rw [List.length_append, List.length_cons]
        omega
      rw [List.cons_append, Kms.parseLength, if_neg above, if_neg other]
      dsimp only
      rw [count, if_neg (by rw [MAX_LENGTH_BYTES]; omega), if_neg enough, if_neg front, whole]
      rfl
  | indefinite => rfl

theorem longLength {l first : UInt8} {tail : Bytes} (above : ¬ l < 0x80) (other : l ≠ 0x80)
    (few : (l &&& 0x7F).toNat ≤ MAX_LENGTH_BYTES)
    (enough : (l &&& 0x7F).toNat ≤ (first :: tail).length) (nonzero : first ≠ 0) :
    ∃ octets rest, l :: first :: tail = octets ++ rest ∧
      (l &&& 0x7F).toNat + 1 = octets.length ∧
      LengthOctets (some (ofBe ((first :: tail).take (l &&& 0x7F).toNat))) octets := by
  have octet := lengthOctet_eq above
  cases count : (l &&& 0x7F).toNat with
  | zero =>
      rw [count] at octet
      exact absurd octet.symm other
  | succ k =>
      rw [count] at octet few enough
      have size : (tail.take k).length = k := List.length_take_of_le (Nat.le_of_succ_le_succ enough)
      refine ⟨l :: first :: tail.take k, tail.drop k, ?_, ?_, ?_⟩
      · rw [List.cons_append, List.cons_append, List.take_append_drop]
      · rw [List.length_cons, List.length_cons, size]
      · have form := LengthOctets.long nonzero (size.symm ▸ few : (tail.take k).length < _)
        rwa [size, octet] at form

theorem parseLength_some (read : parseLength bytes = some (length, n)) :
    ∃ octets rest, bytes = octets ++ rest ∧ n = octets.length ∧ LengthOctets length octets := by
  cases bytes with
  | nil => cases read
  | cons l rest =>
      simp only [parseLength] at read
      split at read
      · rename_i below
        cases read
        have octet : [l] = [UInt8.ofNat l.toNat] := congrArg (fun l => [l]) UInt8.ofNat_toNat.symm
        exact ⟨[l], rest, rfl, rfl, octet ▸ .short (UInt8.lt_iff_toNat_lt.mp below)⟩
      · rename_i above
        split at read
        · rename_i marked
          cases read
          exact ⟨[l], rest, rfl, rfl, marked ▸ .indefinite⟩
        · rename_i other
          split at read
          · cases read
          · rename_i few
            split at read
            · cases read
            · rename_i enough
              split at read
              · cases read
              · rename_i nonzero
                cases read
                cases rest with
                | nil => exact absurd rfl nonzero
                | cons first tail =>
                    exact longLength above other (Nat.le_of_not_lt few) (Nat.le_of_not_lt enough)
                      nonzero

theorem LengthOctets.length_pos (form : LengthOctets length octets) : 0 < octets.length := by
  cases form <;> exact Nat.succ_pos _

end Lengths

section Headers

variable {input tag octets : Bytes} {length : Option Nat} {header : Header}

theorem parseHeader_append (ok : TagOk tag) (form : LengthOctets length octets) (rest : Bytes) :
    parseHeader (tag ++ (octets ++ rest)) = some ⟨tag, length, tag.length + octets.length⟩ := by
  rw [parseHeader, ok.tagLength, Option.bind_eq_bind, Option.bind_some, List.drop_left,
    List.take_left, form.parseLength]
  rfl

theorem parseHeader_some (read : parseHeader input = some header) :
    ∃ tag length octets rest, input = tag ++ (octets ++ rest) ∧ TagOk tag ∧
      LengthOctets length octets ∧ header = ⟨tag, length, tag.length + octets.length⟩ := by
  simp only [parseHeader, Option.bind_eq_bind, Option.bind_eq_some_iff] at read
  obtain ⟨offset, tagged, ⟨length, count⟩, measured, ⟨⟩⟩ := read
  obtain ⟨tag, after, rfl, rfl, ok⟩ := tagLength_some tagged
  rw [List.drop_left] at measured
  obtain ⟨octets, rest, rfl, rfl, form⟩ := parseLength_some measured
  refine ⟨tag, length, octets, rest, rfl, ok, form, ?_⟩
  rw [List.take_left]

theorem drop_header (tag octets rest : Bytes) :
    (tag ++ (octets ++ rest)).drop (tag.length + octets.length) = rest := by
  rw [← List.append_assoc, ← List.length_append, List.drop_left]

theorem split_value (tag octets content rest : Bytes) :
    tag ++ (octets ++ (content ++ rest)) = (tag ++ (octets ++ content)) ++ rest := by
  rw [List.append_assoc, List.append_assoc]

theorem length_value (tag octets content : Bytes) :
    tag.length + octets.length + content.length = (tag ++ (octets ++ content)).length := by
  rw [List.length_append, List.length_append, Nat.add_assoc]

theorem splits_at {rest : Bytes} {len : Nat} (fits : len ≤ rest.length) :
    ∃ content after, rest = content ++ after ∧ len = content.length :=
  ⟨rest.take len, rest.drop len, (List.take_append_drop len rest).symm,
    (List.length_take_of_le fits).symm⟩

end Headers

mutual

/-- The value with every string in it joined. -/
def Node.canon : Node → Node
  | .primitive tag bytes => .primitive tag bytes
  | .constructed tag children => Node.joined (.constructed tag (canonAll children))

def canonAll : List Node → List Node
  | [] => []
  | child :: rest => child.canon :: canonAll rest

end

theorem canonAll_eq_map (children : List Node) : canonAll children = children.map Node.canon := by
  induction children with
  | nil => rw [canonAll, List.map_nil]
  | cons child rest ih => rw [canonAll, ih, List.map_cons]

theorem canon_constructed (tag : Bytes) (children : List Node) :
    (Node.constructed tag children).canon =
      Node.joined (.constructed tag (children.map Node.canon)) := by
  rw [Node.canon, canonAll_eq_map]

/-- The contents octets of a constructed value of these parts: the parts, and
    after an indefinite length the end-of-contents octets. No part before them
    looks like them. -/
inductive Contents : Option Nat → List Bytes → Bytes → Prop where
  | definite (parts : List Bytes) : Contents (some parts.flatten.length) parts parts.flatten
  | indefinite {parts : List Bytes} : (∀ part ∈ parts, part.take 2 ≠ [0, 0]) →
      Contents none parts (parts.flatten ++ [0, 0])

/-- `bytes` is a BER encoding of the value, which is at most `levels` deep. -/
inductive Encodes : (levels : Nat) → (bytes : Bytes) → Node → Prop where
  | primitive {levels : Nat} {tag octets content : Bytes} : TagOk tag →
      isConstructed tag = false → LengthOctets (some content.length) octets →
      Encodes (levels + 1) (tag ++ (octets ++ content)) (.primitive tag content)
  | constructed {levels : Nat} {length : Option Nat} {tag octets content : Bytes}
      {children : List (Bytes × Node)} : TagOk tag → isConstructed tag = true →
      LengthOctets length octets → (∀ child ∈ children, Encodes levels child.1 child.2) →
      Contents length (children.map Prod.fst) content →
      Encodes (levels + 1) (tag ++ (octets ++ content)) (.constructed tag (children.map Prod.snd))

theorem Encodes.two_le_length {levels : Nat} {bytes : Bytes} {tree : Node}
    (encodes : Encodes levels bytes tree) : 2 ≤ bytes.length := by
  cases encodes with
  | primitive ok _ form | constructed ok _ form =>
      have tagged := ok.length_pos
      have measured := form.length_pos
      rw [List.length_append, List.length_append]
      omega

section Parsing

variable {levels fuel used : Nat} {input bytes : Bytes} {node : Node} {nodes : List Node}
  {parseChild : Bytes → Option (Node × Nat)} {children : List (Bytes × Node)}

/-- What the parser of one level down does, by the grammar of that level. -/
def Reads (levels : Nat) (parseChild : Bytes → Option (Node × Nat)) : Prop :=
  ∀ input node used, parseChild input = some (node, used) ↔
    ∃ bytes rest tree, input = bytes ++ rest ∧ used = bytes.length ∧
      Encodes levels bytes tree ∧ node = tree.canon

theorem Reads.append {tree : Node} (reads : Reads levels parseChild)
    (encodes : Encodes levels bytes tree) (rest : Bytes) :
    parseChild (bytes ++ rest) = some (tree.canon, bytes.length) :=
  (reads _ _ _).mpr ⟨bytes, rest, tree, rfl, rfl, encodes, rfl⟩

theorem parseDefinite_some (reads : Reads levels parseChild)
    (parsed : parseDefinite parseChild fuel bytes = some nodes) :
    ∃ children : List (Bytes × Node), bytes = (children.map Prod.fst).flatten ∧
      nodes = (children.map Prod.snd).map Node.canon ∧
      ∀ child ∈ children, Encodes levels child.1 child.2 := by
  induction fuel generalizing bytes nodes with
  | zero =>
      cases bytes with
      | nil =>
          cases parsed
          exact ⟨[], rfl, rfl, nofun⟩
      | cons => cases parsed
  | succ fuel ih =>
      cases bytes with
      | nil =>
          cases parsed
          exact ⟨[], rfl, rfl, nofun⟩
      | cons byte bytes =>
          obtain ⟨⟨child, used⟩, read, parsed⟩ := Option.bind_eq_some_iff.mp parsed
          obtain ⟨nodes, inner, ⟨⟩⟩ := Option.bind_eq_some_iff.mp parsed
          obtain ⟨first, rest, tree, split, rfl, encodes, rfl⟩ := (reads _ _ _).mp read
          rw [split, List.drop_left] at inner
          obtain ⟨children, rfl, rfl, each⟩ := ih inner
          exact ⟨(first, tree) :: children, split, rfl,
            List.forall_mem_cons.mpr ⟨encodes, each⟩⟩

theorem parseDefinite_succ (nonempty : bytes ≠ []) :
    parseDefinite parseChild (fuel + 1) bytes =
      (parseChild bytes).bind fun read =>
        (parseDefinite parseChild fuel (bytes.drop read.2)).bind fun children =>
          some (read.1 :: children) := by
  cases bytes with
  | nil => exact absurd rfl nonempty
  | cons byte rest => rfl

theorem parseDefinite_flatten (reads : Reads levels parseChild)
    (each : ∀ child ∈ children, Encodes levels child.1 child.2)
    (enough : (children.map Prod.fst).flatten.length ≤ fuel) :
    parseDefinite parseChild fuel (children.map Prod.fst).flatten =
      some ((children.map Prod.snd).map Node.canon) := by
  induction children generalizing fuel with
  | nil => cases fuel <;> rfl
  | cons child children ih =>
      obtain ⟨encodes, later⟩ := List.forall_mem_cons.mp each
      have long := encodes.two_le_length
      rw [List.map_cons, List.flatten_cons, List.length_append] at enough
      obtain ⟨fuel, rfl⟩ : ∃ fuel', fuel = fuel' + 1 := Nat.exists_eq_add_one.mpr (by omega)
      have nonempty : child.1 ++ (children.map Prod.fst).flatten ≠ [] :=
        List.append_ne_nil_of_left_ne_nil (List.ne_nil_of_length_pos (by omega)) _
      rw [List.map_cons, List.flatten_cons, parseDefinite_succ nonempty, reads.append encodes,
        Option.bind_some, List.drop_left, ih later (by omega)]
      rfl

theorem parseIndefinite_some (reads : Reads levels parseChild)
    (parsed : parseIndefinite parseChild fuel bytes = some (nodes, used)) :
    ∃ (children : List (Bytes × Node)) (rest : Bytes),
      bytes = (children.map Prod.fst).flatten ++ [0, 0] ++ rest ∧
      used = ((children.map Prod.fst).flatten ++ [0, 0]).length ∧
      nodes = (children.map Prod.snd).map Node.canon ∧
      (∀ child ∈ children, Encodes levels child.1 child.2) ∧
      ∀ part ∈ children.map Prod.fst, part.take 2 ≠ [0, 0] := by
  induction fuel generalizing bytes nodes used with
  | zero => cases parsed
  | succ fuel ih =>
      rw [parseIndefinite] at parsed
      split at parsed
      · rename_i ends
        cases parsed
        have split := List.take_append_drop 2 bytes
        rw [ends] at split
        exact ⟨[], bytes.drop 2, split.symm, rfl, rfl, nofun, nofun⟩
      · rename_i goes
        obtain ⟨⟨child, count⟩, read, parsed⟩ := Option.bind_eq_some_iff.mp parsed
        obtain ⟨⟨nodes, more⟩, inner, ⟨⟩⟩ := Option.bind_eq_some_iff.mp parsed
        obtain ⟨first, after, tree, rfl, rfl, encodes, rfl⟩ := (reads _ _ _).mp read
        rw [List.drop_left] at inner
        rw [List.take_append_of_le_length encodes.two_le_length] at goes
        obtain ⟨children, rest, rfl, rfl, rfl, each, parts⟩ := ih inner
        refine ⟨(first, tree) :: children, rest, ?_, ?_, rfl,
          List.forall_mem_cons.mpr ⟨encodes, each⟩, List.forall_mem_cons.mpr ⟨goes, parts⟩⟩
        · simp only [List.map_cons, List.flatten_cons, List.append_assoc]
        · rw [List.map_cons, List.flatten_cons, List.append_assoc]
          exact List.length_append.symm

theorem parseIndefinite_flatten (reads : Reads levels parseChild)
    (each : ∀ child ∈ children, Encodes levels child.1 child.2)
    (parts : ∀ part ∈ children.map Prod.fst, part.take 2 ≠ [0, 0])
    (enough : (children.map Prod.fst).flatten.length < fuel) (rest : Bytes) :
    parseIndefinite parseChild fuel ((children.map Prod.fst).flatten ++ [0, 0] ++ rest) =
      some ((children.map Prod.snd).map Node.canon,
        ((children.map Prod.fst).flatten ++ [0, 0]).length) := by
  induction children generalizing fuel with
  | nil =>
      obtain ⟨fuel, rfl⟩ := Nat.exists_eq_add_one.mpr enough
      rfl
  | cons child children ih =>
      obtain ⟨encodes, later⟩ := List.forall_mem_cons.mp each
      obtain ⟨front, parts⟩ := List.forall_mem_cons.mp parts
      have long := encodes.two_le_length
      rw [List.map_cons, List.flatten_cons, List.length_append] at enough
      obtain ⟨fuel, rfl⟩ : ∃ fuel', fuel = fuel' + 1 := Nat.exists_eq_add_one.mpr (by omega)
      rw [List.map_cons, List.flatten_cons, List.append_assoc, List.append_assoc,
        List.append_assoc, ← List.append_assoc _ _ rest]
      have goes : (child.1 ++ ((children.map Prod.fst).flatten ++ [0, 0] ++ rest)).take 2 ≠
          [0, 0] := by
        rwa [List.take_append_of_le_length long]
      rw [parseIndefinite, if_neg goes, reads.append encodes]
      simp only [Option.bind_eq_bind, Option.bind_some, List.drop_left]
      rw [ih later parts (by omega)]
      exact congrArg (fun used => some (_, used)) List.length_append.symm

theorem parse_sound (reads : Reads levels (parse levels))
    (parsed : parse (levels + 1) input = some (node, used)) :
    ∃ bytes rest tree, input = bytes ++ rest ∧ used = bytes.length ∧
      Encodes (levels + 1) bytes tree ∧ node = tree.canon := by
  rw [parse] at parsed
  split at parsed
  · cases parsed
  · simp only [Option.bind_eq_bind, Option.bind_eq_some_iff] at parsed
    obtain ⟨header, read, parsed⟩ := parsed
    obtain ⟨tag, length, octets, after, rfl, ok, form, rfl⟩ := parseHeader_some read
    simp only [drop_header] at parsed
    split at parsed
    · rename_i len kind
      split at parsed
      · cases parsed
      · rename_i fits
        obtain ⟨content, rest, rfl, rfl⟩ := splits_at (Nat.le_of_not_lt fits)
        rw [List.take_left] at parsed
        cases parsed
        exact ⟨_, rest, _, split_value .., length_value .., .primitive ok kind form,
          by rw [Node.canon, Node.joined]⟩
    · rename_i len kind
      split at parsed
      · cases parsed
      · rename_i fits
        obtain ⟨content, rest, rfl, rfl⟩ := splits_at (Nat.le_of_not_lt fits)
        rw [List.take_left] at parsed
        obtain ⟨nodes, inner, ⟨⟩⟩ := Option.bind_eq_some_iff.mp parsed
        obtain ⟨children, rfl, rfl, each⟩ := parseDefinite_some reads inner
        exact ⟨_, rest, _, split_value .., length_value ..,
          .constructed ok kind form each (.definite _), (canon_constructed _ _).symm⟩
    · cases parsed
    · rename_i kind
      obtain ⟨⟨nodes, more⟩, inner, ⟨⟩⟩ := Option.bind_eq_some_iff.mp parsed
      obtain ⟨children, rest, rfl, rfl, rfl, each, parts⟩ := parseIndefinite_some reads inner
      exact ⟨_, rest, _, split_value .., length_value ..,
        .constructed ok kind form each (.indefinite parts), (canon_constructed _ _).symm⟩

theorem parse_append {tree : Node} (reads : Reads levels (parse levels))
    (encodes : Encodes (levels + 1) bytes tree) (rest : Bytes) :
    parse (levels + 1) (bytes ++ rest) = some (tree.canon, bytes.length) := by
  have enough : ¬ (bytes ++ rest).length < 2 := by
    have long := encodes.two_le_length
    rw [List.length_append]
    omega
  rw [parse, if_neg enough]
  cases encodes with
  | @primitive _ tag octets content ok kind form =>
      have fits : ¬ (content ++ rest).length < content.length := by
        rw [List.length_append]
        omega
      rw [← split_value, parseHeader_append ok form, ← length_value]
      simp only [Option.bind_eq_bind, Option.bind_some, drop_header, kind, List.take_left,
        if_neg fits, Node.canon, Node.joined]
  | @constructed _ length tag octets content children ok kind form each contents =>
      rw [← split_value, parseHeader_append ok form, ← length_value, canon_constructed]
      cases contents with
      | definite =>
          have fits : ¬ ((children.map Prod.fst).flatten ++ rest).length <
              (children.map Prod.fst).flatten.length := by
            rw [List.length_append]
            omega
          simp only [Option.bind_eq_bind, Option.bind_some, drop_header, kind, List.take_left,
            if_neg fits, parseDefinite_flatten reads each (Nat.le_refl _)]
      | indefinite parts =>
          have room : (children.map Prod.fst).flatten.length <
              ((children.map Prod.fst).flatten ++ [0, 0] ++ rest).length + 1 := by
            rw [List.length_append, List.length_append]
            omega
          simp only [Option.bind_eq_bind, Option.bind_some, drop_header, kind,
            parseIndefinite_flatten reads each parts room]

theorem reads_parse (levels : Nat) : Reads levels (parse levels) := by
  induction levels with
  | zero =>
      intro input node used
      refine ⟨nofun, ?_⟩
      rintro ⟨bytes, rest, tree, -, -, encodes, -⟩
      cases encodes
  | succ levels ih =>
      intro input node used
      constructor
      · exact parse_sound ih
      · rintro ⟨bytes, rest, tree, rfl, rfl, encodes, rfl⟩
        exact parse_append ih encodes rest

end Parsing

end EnclaveSigner.Kms
