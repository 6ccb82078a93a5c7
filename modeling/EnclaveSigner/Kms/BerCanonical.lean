import EnclaveSigner.Kms.BerGrammar

/-! # What the converter keeps and what it settles

The output is the encoding of the value tree of the input with every string
joined. A string of no chunks at all is not joined, and an output whose lengths
need more than four octets is not read back.
-/

namespace EnclaveSigner.Kms

open Lib Node

theorem Node.joined_eq (tag : Bytes) (children : List Node) :
    Node.joined (.constructed tag children) = .constructed tag children ∨
      Node.eligible tag = true ∧ (∀ child ∈ children, child.isChunk = true) ∧
        Node.joined (.constructed tag children) =
          .primitive [tag.headD 0 &&& ~~~CONSTRUCTED] (children.flatMap Node.chunkBytes) := by
  rw [Node.joined]
  split
  · rename_i both
    simp only [Bool.and_eq_true, List.all_eq_true] at both
    exact .inr ⟨both.1, both.2.2, rfl⟩
  · exact .inl rfl

theorem Node.induct {motive : Node → Prop}
    (primitive : ∀ tag bytes, motive (.primitive tag bytes))
    (constructed : ∀ tag children, (∀ child ∈ children, motive child) →
      motive (.constructed tag children)) (node : Node) : motive node := by
  refine @Node.rec motive (fun children => ∀ child ∈ children, motive child) primitive constructed
    nofun ?_ node
  intro head tail first rest child member
  rcases List.mem_cons.mp member with rfl | later
  · exact first
  · exact rest child later

mutual

/-- The contents of the leaves, one after another. -/
def Node.leaves : Node → Bytes
  | .primitive _ bytes => bytes
  | .constructed _ children => leavesAll children

def leavesAll : List Node → Bytes
  | [] => []
  | child :: rest => child.leaves ++ leavesAll rest

end

theorem leavesAll_eq_flatMap (children : List Node) :
    leavesAll children = children.flatMap leaves := by
  induction children with
  | nil => rw [leavesAll, List.flatMap_nil]
  | cons child rest ih => rw [leavesAll, ih, List.flatMap_cons]

theorem leaves_constructed (tag : Bytes) (children : List Node) :
    (Node.constructed tag children).leaves = children.flatMap leaves := by
  rw [leaves, leavesAll_eq_flatMap]

theorem leaves_of_isChunk {node : Node} (chunk : node.isChunk = true) :
    node.leaves = node.chunkBytes := by
  cases node with
  | primitive tag bytes => rw [leaves, Node.chunkBytes]
  | constructed tag children => cases chunk

theorem leaves_joined (node : Node) : node.joined.leaves = node.leaves := by
  cases node with
  | primitive tag bytes => rfl
  | constructed tag children =>
      rcases joined_eq tag children with same | ⟨-, chunks, joined⟩
      · rw [same]
      · rw [joined, leaves_constructed, leaves]
        exact (List.flatMap_congr fun child member => leaves_of_isChunk (chunks child member)).symm

theorem leaves_canon (node : Node) : node.canon.leaves = node.leaves := by
  induction node using Node.induct with
  | primitive tag bytes => rw [Node.canon]
  | constructed tag children ih =>
      rw [canon_constructed, leaves_joined, leaves_constructed, leaves_constructed,
        List.flatMap_map]
      exact List.flatMap_congr ih

section Lengths

variable {len : Nat} {octets : Bytes}

/-- The fewest octets that a definite length can have. -/
def MinimalLength (len : Nat) (octets : Bytes) : Prop :=
  len < 128 ∧ octets = [UInt8.ofNat len] ∨
  128 ≤ len ∧ ∃ first digits,
    octets = (0x80 ||| UInt8.ofNat (digits.length + 1)) :: first :: digits ∧
    digits.length < 8 ∧ first ≠ 0 ∧ ofBe (first :: digits) = len

theorem digits_length (len : Nat) : ((natBe 8 len).dropWhile (· = 0)).length ≤ 8 := by
  have shorter := (List.dropWhile_sublist (l := natBe 8 len) fun byte => decide (byte = 0)).length_le
  rwa [natBe_length] at shorter

theorem encodeLength_minimal (fits : len < 2 ^ 64) : MinimalLength len (encodeLength len) := by
  unfold encodeLength
  split
  · rename_i short
    exact .inl ⟨short, rfl⟩
  · rename_i long
    have value : ofBe ((natBe 8 len).dropWhile (· = 0)) = len :=
      (ofBe_dropWhile_zero _).trans (ofBe_natBe fits)
    have most := digits_length len
    have front := List.head?_dropWhile_not (fun byte : UInt8 => decide (byte = 0)) (natBe 8 len)
    refine .inr ⟨Nat.le_of_not_lt long, ?_⟩
    cases digits : (natBe 8 len).dropWhile (· = 0) with
    | nil =>
        rw [digits] at value
        exact absurd (value ▸ Nat.zero_lt_succ 127 : len < 128) long
    | cons first rest =>
        rw [digits] at value most front
        exact ⟨first, rest, rfl, most, of_decide_eq_false front, value⟩

theorem MinimalLength.lengthOctets (minimal : MinimalLength len octets) (fits : len < 2 ^ 32) :
    LengthOctets (some len) octets := by
  rcases minimal with ⟨short, rfl⟩ | ⟨-, first, digits, rfl, -, nonzero, rfl⟩
  · exact .short short
  · refine .long nonzero ?_
    have least : 256 ^ digits.length ≤ ofBe (first :: digits) := pow_le_ofBe nonzero
    exact (Nat.pow_lt_pow_iff_right (by decide : 1 < 256)).mp (Nat.lt_of_le_of_lt least fits)

theorem encodeLength_octets (fits : len < 2 ^ 32) : LengthOctets (some len) (encodeLength len) :=
  (encodeLength_minimal (Nat.lt_trans fits (by decide))).lengthOctets fits

theorem encodeLength_length (len : Nat) :
    0 < (encodeLength len).length ∧ (encodeLength len).length ≤ 9 := by
  unfold encodeLength
  split
  · exact ⟨Nat.one_pos, Nat.succ_le_succ (Nat.zero_le _)⟩
  · exact ⟨Nat.succ_pos _, Nat.succ_le_succ (digits_length len)⟩

end Lengths

section Encoding

variable {levels : Nat} {node : Node}

theorem Node.encode_primitive (tag bytes : Bytes) :
    (Node.primitive tag bytes).encode = tag ++ (encodeLength bytes.length ++ bytes) := by
  rw [Node.encode]

theorem Node.encode_constructed (tag : Bytes) (children : List Node) :
    (Node.constructed tag children).encode =
      tag ++ (encodeLength (encodeAll children).length ++ encodeAll children) := by
  rw [Node.encode]

theorem encodeAll_cons (child : Node) (children : List Node) :
    encodeAll (child :: children) = child.encode ++ encodeAll children := by
  rw [encodeAll]

theorem encodeAll_eq_flatMap (children : List Node) :
    encodeAll children = children.flatMap Node.encode := by
  induction children with
  | nil => rw [encodeAll, List.flatMap_nil]
  | cons child rest ih => rw [encodeAll, ih, List.flatMap_cons]

theorem length_encode_le {child : Node} {children : List Node} (member : child ∈ children) :
    child.encode.length ≤ (encodeAll children).length := by
  induction children with
  | nil => cases member
  | cons head tail ih =>
      rw [encodeAll_cons, List.length_append]
      rcases List.mem_cons.mp member with rfl | later
      · exact Nat.le_add_right _ _
      · exact Nat.le_trans (ih later) (Nat.le_add_left _ _)

/-- A value with every string joined: its tags are well-formed, it is not too deep
    and joining changes no part of it. -/
inductive Shaped : Nat → Node → Prop where
  | primitive {levels : Nat} {tag bytes : Bytes} : TagOk tag → isConstructed tag = false →
      Shaped (levels + 1) (.primitive tag bytes)
  | constructed {levels : Nat} {tag : Bytes} {children : List Node} : TagOk tag →
      isConstructed tag = true →
      Node.joined (.constructed tag children) = .constructed tag children →
      (∀ child ∈ children, Shaped levels child) → Shaped (levels + 1) (.constructed tag children)

theorem shaped_joined {tag : Bytes} {children : List Node} (ok : TagOk tag)
    (kind : isConstructed tag = true) (inner : ∀ child ∈ children, Shaped levels child) :
    Shaped (levels + 1) (Node.joined (.constructed tag children)) := by
  rcases joined_eq tag children with same | ⟨eligible, -, joined⟩
  · rw [same]
    exact .constructed ok kind same inner
  · rw [joined]
    have single : tag.length = 1 := of_decide_eq_true (Bool.and_eq_true_iff.mp eligible).1
    obtain ⟨first, rfl, short⟩ := ok.short single
    refine .primitive ?_ ?_
    · have low : (first &&& ~~~CONSTRUCTED) &&& 0x1F = first &&& 0x1F := by
        rw [UInt8.and_assoc]
        rfl
      exact .low (low.symm ▸ short)
    · have cleared : (first &&& ~~~CONSTRUCTED) &&& CONSTRUCTED = 0 := by
        rw [UInt8.and_assoc]
        exact UInt8.and_zero
      exact decide_eq_false (not_not.mpr cleared)

theorem Encodes.shaped {bytes : Bytes} {tree : Node} (encodes : Encodes levels bytes tree) :
    Shaped levels tree.canon := by
  induction encodes with
  | primitive ok kind _ =>
      rw [Node.canon]
      exact .primitive ok kind
  | constructed ok kind _ _ _ ih =>
      rw [canon_constructed]
      refine shaped_joined ok kind fun node member => ?_
      simp only [List.mem_map] at member
      obtain ⟨_, ⟨child, there, rfl⟩, rfl⟩ := member
      exact ih child there

theorem Shaped.canon_eq (shaped : Shaped levels node) : node.canon = node := by
  induction shaped with
  | primitive => rw [Node.canon]
  | constructed _ _ done _ ih => rw [canon_constructed, List.map_congr_left ih, List.map_id', done]

theorem Shaped.encodes (shaped : Shaped levels node) (small : node.encode.length < 2 ^ 32) :
    Encodes levels node.encode node := by
  induction shaped with
  | @primitive levels tag bytes ok kind =>
      rw [encode_primitive] at small ⊢
      rw [List.length_append, List.length_append] at small
      exact .primitive ok kind (encodeLength_octets (by omega))
  | @constructed levels tag children ok kind _ _ ih =>
      rw [encode_constructed, List.length_append, List.length_append] at small
      let parts := children.map fun child => (child.encode, child)
      have octets : (parts.map Prod.fst).flatten = encodeAll children := by
        rw [List.map_map, encodeAll_eq_flatMap, List.flatMap_def]
        rfl
      have nodes : parts.map Prod.snd = children := by
        rw [List.map_map]
        exact List.map_id' children
      have form : LengthOctets (some (parts.map Prod.fst).flatten.length)
          (encodeLength (encodeAll children).length) := by
        rw [octets]
        exact encodeLength_octets (by omega)
      have each : ∀ part ∈ parts, Encodes levels part.1 part.2 := by
        intro part member
        obtain ⟨child, there, rfl⟩ := List.mem_map.mp member
        exact ih child there (Nat.lt_of_le_of_lt (length_encode_le there) (by omega))
      have whole := Encodes.constructed ok kind form each (.definite _)
      rwa [nodes, octets, ← encode_constructed] at whole

end Encoding

section Bounds

variable {levels : Nat} {bytes : Bytes} {tree : Node} {children : List (Bytes × Node)}

theorem length_chunkBytes_le (node : Node) : node.chunkBytes.length ≤ node.encode.length := by
  cases node with
  | primitive tag bytes =>
      rw [encode_primitive, Node.chunkBytes, List.length_append, List.length_append]
      omega
  | constructed tag children => exact Nat.zero_le _

theorem length_flatMap_chunkBytes_le (children : List Node) :
    (children.flatMap Node.chunkBytes).length ≤ (encodeAll children).length := by
  induction children with
  | nil => exact Nat.zero_le _
  | cons child rest ih =>
      rw [List.flatMap_cons, List.length_append, encodeAll_cons, List.length_append]
      exact Nat.add_le_add (length_chunkBytes_le child) ih

theorem length_encode_joined_le (tag : Bytes) (children : List Node) :
    (Node.joined (.constructed tag children)).encode.length ≤
      tag.length + 9 + (encodeAll children).length := by
  rcases joined_eq tag children with same | ⟨eligible, -, joined⟩
  · rw [same, encode_constructed, List.length_append, List.length_append]
    have octets := (encodeLength_length (encodeAll children).length).2
    omega
  · have single : tag.length = 1 := of_decide_eq_true (Bool.and_eq_true_iff.mp eligible).1
    rw [joined, encode_primitive, List.length_append, List.length_append,
      List.length_singleton]
    have octets := (encodeLength_length (children.flatMap Node.chunkBytes).length).2
    have content := length_flatMap_chunkBytes_le children
    omega

theorem length_encodeAll_le (each : ∀ child ∈ children,
      child.2.canon.encode.length ≤ 10 * child.1.length) :
    (encodeAll ((children.map Prod.snd).map Node.canon)).length ≤
      10 * (children.map Prod.fst).flatten.length := by
  induction children with
  | nil => exact Nat.zero_le _
  | cons child children ih =>
      obtain ⟨first, later⟩ := List.forall_mem_cons.mp each
      have rest := ih later
      simp only [List.map_cons, List.flatten_cons, encodeAll_cons, List.length_append]
      omega

theorem Contents.length_le {length : Option Nat} {parts : List Bytes} {content : Bytes}
    (contents : Contents length parts content) : parts.flatten.length ≤ content.length := by
  cases contents with
  | definite => exact Nat.le_refl _
  | indefinite =>
      rw [List.length_append]
      exact Nat.le_add_right _ _

/-- Only the length octets can become more, up to nine of them. -/
theorem Encodes.length_le (encodes : Encodes levels bytes tree) :
    tree.canon.encode.length ≤ 10 * bytes.length := by
  induction encodes with
  | @primitive levels tag octets content ok kind form =>
      have tagged := ok.length_pos
      have written := (encodeLength_length content.length).2
      rw [Node.canon, encode_primitive]
      simp only [List.length_append]
      omega
  | @constructed levels length tag octets content children ok kind form each contents ih =>
      have tagged := ok.length_pos
      have inner := length_encodeAll_le ih
      have whole := contents.length_le
      have outer := length_encode_joined_le tag ((children.map Prod.snd).map Node.canon)
      rw [canon_constructed]
      simp only [List.length_append]
      omega

end Bounds

/-- `bytes` is one value with definite minimal lengths at every level, and
    `contents` are its leaves, one after another. -/
inductive Definite : (bytes contents : Bytes) → Prop where
  | primitive {tag length content : Bytes} : TagOk tag → isConstructed tag = false →
      MinimalLength content.length length → Definite (tag ++ (length ++ content)) content
  | constructed {tag length : Bytes} {children : List (Bytes × Bytes)} : TagOk tag →
      isConstructed tag = true → (∀ child ∈ children, Definite child.1 child.2) →
      MinimalLength (children.flatMap Prod.fst).length length →
      Definite (tag ++ (length ++ children.flatMap Prod.fst)) (children.flatMap Prod.snd)

theorem Shaped.definite {levels : Nat} {node : Node} (shaped : Shaped levels node)
    (fits : node.encode.length < 2 ^ 64) : Definite node.encode node.leaves := by
  induction shaped with
  | @primitive levels tag bytes ok kind =>
      rw [encode_primitive] at fits ⊢
      rw [List.length_append, List.length_append] at fits
      exact .primitive ok kind (encodeLength_minimal (by omega))
  | @constructed levels tag children ok kind done inner ih =>
      rw [encode_constructed, List.length_append, List.length_append] at fits
      let parts := children.map fun child => (child.encode, child.leaves)
      have octets : parts.flatMap Prod.fst = encodeAll children := by
        rw [List.flatMap_map, encodeAll_eq_flatMap]
      have contents : parts.flatMap Prod.snd = (Node.constructed tag children).leaves := by
        rw [List.flatMap_map, leaves_constructed]
      rw [encode_constructed, ← octets, ← contents]
      refine .constructed ok kind ?_ (encodeLength_minimal (by rw [octets]; omega))
      intro part member
      obtain ⟨child, there, rfl⟩ := List.mem_map.mp member
      exact ih child there (Nat.lt_of_le_of_lt (length_encode_le there) (by omega))

section Chunks

/-- An OCTET STRING of some content: one primitive, or at least one OCTET STRING
    as chunk. -/
inductive OctetString : Node → Bytes → Prop where
  | whole (content : Bytes) : OctetString (.primitive [UNIVERSAL_OCTET_STRING] content) content
  | chunks {children : List (Node × Bytes)} : children ≠ [] →
      (∀ child ∈ children, OctetString child.1 child.2) →
      OctetString (.constructed [UNIVERSAL_OCTET_STRING ||| CONSTRUCTED] (children.map Prod.fst))
        (children.flatMap Prod.snd)

theorem octetString_chunks (contents : List Bytes) (some : contents ≠ []) :
    OctetString (.constructed [UNIVERSAL_OCTET_STRING ||| CONSTRUCTED]
      (contents.map (.primitive [UNIVERSAL_OCTET_STRING]))) contents.flatten := by
  have each : ∀ child ∈ contents.map fun content =>
      (Node.primitive [UNIVERSAL_OCTET_STRING] content, content),
      OctetString child.1 child.2 := by
    intro child member
    obtain ⟨content, -, rfl⟩ := List.mem_map.mp member
    exact .whole content
  have string := OctetString.chunks (mt List.map_eq_nil_iff.mp some) each
  rwa [List.map_map, List.flatMap_map, List.flatMap_id'] at string

/-- A context-specific value of some content under a tag of one octet: one
    primitive, or at least one OCTET STRING as chunk. -/
inductive ContextString (tag : UInt8) : Node → Bytes → Prop where
  | whole (content : Bytes) : ContextString tag (.primitive [tag &&& ~~~CONSTRUCTED] content) content
  | chunks {children : List (Node × Bytes)} : children ≠ [] →
      (∀ child ∈ children, OctetString child.1 child.2) →
      ContextString tag (.constructed [tag] (children.map Prod.fst)) (children.flatMap Prod.snd)

/-- Two value trees that differ only in how their strings are split. -/
inductive SameValue : Node → Node → Prop where
  | octets {a b : Node} {content : Bytes} : OctetString a content → OctetString b content →
      SameValue a b
  | context {tag : UInt8} {a b : Node} {content : Bytes} : tag &&& CLASS_MASK = CLASS_CONTEXT →
      ContextString tag a content → ContextString tag b content → SameValue a b
  | primitive (tag bytes : Bytes) : SameValue (.primitive tag bytes) (.primitive tag bytes)
  | constructed {tag : Bytes} {children : List (Node × Node)} :
      (∀ pair ∈ children, SameValue pair.1 pair.2) →
      SameValue (.constructed tag (children.map Prod.fst)) (.constructed tag (children.map Prod.snd))

theorem joined_chunks {tag : UInt8} {contents : List Bytes} (eligible : Node.eligible [tag] = true)
    (some : contents ≠ []) :
    Node.joined (.constructed [tag] (contents.map (.primitive [UNIVERSAL_OCTET_STRING]))) =
      .primitive [tag &&& ~~~CONSTRUCTED] contents.flatten := by
  have nonempty : (contents.map (Node.primitive [UNIVERSAL_OCTET_STRING])).isEmpty = false := by
    rw [List.isEmpty_map]
    exact Bool.eq_false_of_not_eq_true fun empty => some (List.isEmpty_iff.mp empty)
  have all : (contents.map (Node.primitive [UNIVERSAL_OCTET_STRING])).all Node.isChunk = true := by
    rw [List.all_map]
    exact List.all_eq_true.mpr fun _ _ => rfl
  rw [Node.joined, eligible, nonempty, all]
  change Node.primitive _ _ = _
  rw [List.flatMap_map]
  congr 1
  exact List.flatMap_id'

theorem canon_chunks {tag : UInt8} {children : List (Node × Bytes)}
    (eligible : Node.eligible [tag] = true) (some : children ≠ [])
    (each : ∀ child ∈ children, child.1.canon = .primitive [UNIVERSAL_OCTET_STRING] child.2) :
    (Node.constructed [tag] (children.map Prod.fst)).canon =
      .primitive [tag &&& ~~~CONSTRUCTED] (children.flatMap Prod.snd) := by
  have chunks : (children.map Prod.fst).map Node.canon =
      (children.map Prod.snd).map (.primitive [UNIVERSAL_OCTET_STRING]) := by
    rw [List.map_map, List.map_map]
    exact List.map_congr_left each
  rw [canon_constructed, chunks, joined_chunks eligible (mt List.map_eq_nil_iff.mp some),
    List.flatMap_def]

theorem OctetString.canon_eq {node : Node} {content : Bytes} (octets : OctetString node content) :
    node.canon = .primitive [UNIVERSAL_OCTET_STRING] content := by
  induction octets with
  | whole content => rw [Node.canon]
  | chunks some _ ih => exact canon_chunks rfl some ih

theorem ContextString.canon_eq {tag : UInt8} {node : Node} {content : Bytes}
    (context : tag &&& CLASS_MASK = CLASS_CONTEXT) (string : ContextString tag node content) :
    node.canon = .primitive [tag &&& ~~~CONSTRUCTED] content := by
  cases string with
  | whole => rw [Node.canon]
  | chunks some each =>
      have eligible : Node.eligible [tag] = true := by
        simp [Node.eligible, context]
      exact canon_chunks eligible some fun child member => (each child member).canon_eq

theorem SameValue.canon_eq {a b : Node} (same : SameValue a b) : a.canon = b.canon := by
  induction same with
  | octets first second => rw [first.canon_eq, second.canon_eq]
  | context tagged first second => rw [first.canon_eq tagged, second.canon_eq tagged]
  | primitive tag bytes => rfl
  | constructed _ ih =>
      rw [canon_constructed, canon_constructed, List.map_map, List.map_map]
      congr 2
      exact List.map_congr_left ih

end Chunks

section Whole

variable {input output : Bytes}

/-- The converter accepts the BER values that are not too deep, and encodes them
    with their strings joined. -/
theorem berToDer_eq_some : berToDer input = some output ↔
    ∃ tree, Encodes (MAX_DEPTH + 1) input tree ∧ output = tree.canon.encode := by
  rw [berToDer]
  constructor
  · intro converted
    obtain ⟨⟨node, used⟩, parsed, converted⟩ := Option.bind_eq_some_iff.mp converted
    obtain ⟨bytes, rest, tree, rfl, rfl, encodes, rfl⟩ := (reads_parse _ _ _ _).mp parsed
    dsimp only at converted
    split at converted
    · cases converted
    · rename_i all
      cases converted
      rw [not_not, List.length_append] at all
      rw [List.eq_nil_of_length_eq_zero (by omega : rest.length = 0), List.append_nil]
      exact ⟨tree, encodes, rfl⟩
  · rintro ⟨tree, encodes, rfl⟩
    have parsed := (reads_parse _).append encodes []
    rw [List.append_nil] at parsed
    rw [parsed]
    exact if_neg (not_not.mpr rfl)

/-- The output has definite minimal lengths at every level and the leaves of the
    input. It is converted to itself as long as it is shorter than `2 ^ 32` bytes,
    and it is at most ten times as long as the input. Inputs whose value trees
    split their strings differently have the same output. -/
theorem berToDer_canonical (short : input.length < 2 ^ 32)
    (converted : berToDer input = some output) :
    (∃ tree, Encodes (MAX_DEPTH + 1) input tree) ∧
    (∀ tree, Encodes (MAX_DEPTH + 1) input tree → Definite output tree.leaves) ∧
    (output.length < 2 ^ 32 → berToDer output = some output) ∧
    output.length ≤ 10 * input.length ∧
    ∀ other tree tree', Encodes (MAX_DEPTH + 1) input tree →
      Encodes (MAX_DEPTH + 1) other tree' → SameValue tree tree' →
        berToDer other = some output := by
  have output_eq : ∀ tree, Encodes (MAX_DEPTH + 1) input tree → output = tree.canon.encode := by
    intro tree encodes
    have known := berToDer_eq_some.mpr ⟨tree, encodes, rfl⟩
    exact Option.some.inj (converted.symm.trans known)
  obtain ⟨tree, encodes, rfl⟩ := berToDer_eq_some.mp converted
  have bound := encodes.length_le
  refine ⟨⟨tree, encodes⟩, fun other read => ?_, fun small => ?_, bound,
    fun other tree₁ tree₂ first second value => ?_⟩
  · rw [output_eq other read, ← leaves_canon]
    exact read.shaped.definite (Nat.lt_of_le_of_lt read.length_le (by omega))
  · exact berToDer_eq_some.mpr
      ⟨tree.canon, encodes.shaped.encodes small, by rw [encodes.shaped.canon_eq]⟩
  · exact berToDer_eq_some.mpr ⟨tree₂, second, by rw [output_eq tree₁ first, value.canon_eq]⟩

theorem encodes_chunks {levels : Nat} {length : Option Nat} {content : Bytes} (tag octets : Bytes)
    (contents : List Bytes) (short : ∀ content ∈ contents, content.length < 128) (ok : TagOk tag)
    (kind : isConstructed tag = true)
    (whole : Contents length (contents.map fun content =>
      UNIVERSAL_OCTET_STRING :: UInt8.ofNat content.length :: content) content)
    (form : LengthOctets length octets) :
    Encodes (levels + 2) (tag ++ (octets ++ content))
      (.constructed tag (contents.map (.primitive [UNIVERSAL_OCTET_STRING]))) := by
  let children := contents.map fun content =>
    (UNIVERSAL_OCTET_STRING :: UInt8.ofNat content.length :: content,
      Node.primitive [UNIVERSAL_OCTET_STRING] content)
  have each : ∀ child ∈ children, Encodes (levels + 1) child.1 child.2 := by
    intro child member
    obtain ⟨content, there, rfl⟩ := List.mem_map.mp member
    exact .primitive (.low (by decide)) rfl (.short (short content there))
  have parts : Contents length (children.map Prod.fst) content := by
    rw [List.map_map]
    exact whole
  have encodes := Encodes.constructed ok kind form each parts
  rwa [List.map_map] at encodes

theorem encodes_sequence {levels : Nat} {length : Option Nat} {bytes content octets : Bytes}
    {tree : Node} (encodes : Encodes levels bytes tree) (whole : Contents length [bytes] content)
    (form : LengthOctets length octets) :
    Encodes (levels + 1) (0x30 :: (octets ++ content)) (.constructed [0x30] [tree]) := by
  have each : ∀ child ∈ [(bytes, tree)], Encodes levels child.1 child.2 :=
    List.forall_mem_singleton.mpr encodes
  exact .constructed (.low (by decide)) rfl form each whole

/-- A string in two chunks inside a constructed value of indefinite length, and
    the same string in one piece. -/
theorem berToDer_canonical_chunks :
    berToDer [0x30, 0x80, 0x24, 0x80, 0x04, 0x01, 0xAA, 0x04, 0x01, 0xBB, 0, 0, 0, 0] =
      some [0x30, 0x04, 0x04, 0x02, 0xAA, 0xBB] ∧
    berToDer [0x30, 0x04, 0x04, 0x02, 0xAA, 0xBB] = some [0x30, 0x04, 0x04, 0x02, 0xAA, 0xBB] ∧
    berToDer [0x30, 0x81, 0x06, 0x24, 0x04, 0x04, 0x02, 0xAA, 0xBB] =
      some [0x30, 0x04, 0x04, 0x02, 0xAA, 0xBB] := by
  have converted : berToDer
      [0x30, 0x80, 0x24, 0x80, 0x04, 0x01, 0xAA, 0x04, 0x01, 0xBB, 0, 0, 0, 0] =
      some [0x30, 0x04, 0x04, 0x02, 0xAA, 0xBB] := by decide
  let split : Node := .constructed [0x24] [.primitive [0x04] [0xAA], .primitive [0x04] [0xBB]]
  let single : Node := .constructed [0x24] [.primitive [0x04] [0xAA, 0xBB]]
  have streamed : Encodes (MAX_DEPTH + 1)
      [0x30, 0x80, 0x24, 0x80, 0x04, 0x01, 0xAA, 0x04, 0x01, 0xBB, 0, 0, 0, 0]
      (.constructed [0x30] [split]) :=
    encodes_sequence (encodes_chunks [0x24] [0x80] [[0xAA], [0xBB]] (by decide) (.low (by decide))
      rfl (.indefinite (by decide)) .indefinite) (.indefinite (by decide)) .indefinite
  have whole : Encodes (MAX_DEPTH + 1) [0x30, 0x81, 0x06, 0x24, 0x04, 0x04, 0x02, 0xAA, 0xBB]
      (.constructed [0x30] [single]) :=
    encodes_sequence (encodes_chunks [0x24] [0x04] [[0xAA, 0xBB]] (by decide) (.low (by decide))
      rfl (.definite _) (.short (by decide))) (.definite _)
      (@LengthOctets.long 6 [] (by decide) (by decide))
  have strings : SameValue split single :=
    .octets (octetString_chunks [[0xAA], [0xBB]] nofun) (octetString_chunks [[0xAA, 0xBB]] nofun)
  have pairs : ∀ pair ∈ [(split, single)], SameValue pair.1 pair.2 :=
    List.forall_mem_singleton.mpr strings
  obtain ⟨-, -, again, -, same⟩ := berToDer_canonical (by decide) converted
  exact ⟨converted, again (by decide), same _ _ _ streamed whole (.constructed pairs)⟩

end Whole

section Limits

/-! A string inside four nested constructed values of indefinite length. In the
output each of the four lengths is written in octets that the input does not have. -/

variable {levels : Nat} {bytes : Bytes} {child : Node}

def wrap (bytes : Bytes) : Bytes := 0x30 :: 0x80 :: (bytes ++ [0, 0])

theorem length_wrap (bytes : Bytes) : (wrap bytes).length = bytes.length + 4 := by
  rw [wrap, List.length_cons, List.length_cons, List.length_append]
  rfl

theorem encodes_wrap (encodes : Encodes levels bytes child) (front : bytes.take 2 ≠ [0, 0]) :
    Encodes (levels + 1) (wrap bytes) (.constructed [0x30] [child]) := by
  have whole : Contents none [bytes] (bytes ++ [0, 0]) := by
    have contents := Contents.indefinite (List.forall_mem_singleton.mpr front)
    rwa [List.flatten_singleton] at contents
  exact encodes_sequence encodes whole .indefinite

def nested (content : Bytes) : Bytes :=
  wrap (wrap (wrap (wrap (Node.primitive [UNIVERSAL_OCTET_STRING] content).encode)))

def nestedNode (content : Bytes) : Node :=
  .constructed [0x30] [.constructed [0x30] [.constructed [0x30] [.constructed [0x30]
    [.primitive [UNIVERSAL_OCTET_STRING] content]]]]

theorem nested_encodes {content : Bytes} (small : content.length < 2 ^ 32) :
    Encodes (MAX_DEPTH + 1) (nested content) (nestedNode content) := by
  have string : Encodes (MAX_DEPTH - 3) (Node.primitive [UNIVERSAL_OCTET_STRING] content).encode
      (.primitive [UNIVERSAL_OCTET_STRING] content) := by
    rw [encode_primitive]
    exact .primitive (.low (by decide)) rfl (encodeLength_octets small)
  have front : (Node.primitive [UNIVERSAL_OCTET_STRING] content).encode.take 2 ≠ [0, 0] := by
    rw [encode_primitive]
    intro zero
    cases (List.cons.inj zero).1
  exact encodes_wrap (encodes_wrap (encodes_wrap (encodes_wrap string front) nofun) nofun) nofun

theorem nestedNode_canon (content : Bytes) : (nestedNode content).canon = nestedNode content := by
  have same : ∀ child : Node, child.canon = child →
      (Node.constructed [0x30] [child]).canon = .constructed [0x30] [child] := by
    intro child fixed
    rw [canon_constructed, List.map_singleton, fixed]
    rfl
  exact same _ (same _ (same _ (same _ (by rw [Node.canon]))))

theorem encode_single (tag : Bytes) (child : Node) :
    (Node.constructed tag [child]).encode =
      tag ++ (encodeLength child.encode.length ++ child.encode) := by
  rw [encode_constructed, encodeAll_cons, encodeAll, List.append_nil]

theorem length_single {len : Nat} (encoded : child.encode.length = len)
    (octets : (encodeLength len).length = 5) :
    (Node.constructed [0x30] [child]).encode.length = len + 6 := by
  rw [encode_single, List.length_append, List.length_append, encoded, octets, List.length_singleton]
  omega

theorem berToDer_nested {content : Bytes} (long : content.length = 2 ^ 32 - 23) :
    (nested content).length < 2 ^ 32 ∧
    berToDer (nested content) = some (nestedNode content).encode ∧
    berToDer (nestedNode content).encode = none := by
  have string : (Node.primitive [UNIVERSAL_OCTET_STRING] content).encode.length = 2 ^ 32 - 17 := by
    rw [encode_primitive, List.length_append, List.length_append, long]
    rfl
  refine ⟨?_, ?_, ?_⟩
  · rw [nested, length_wrap, length_wrap, length_wrap, length_wrap, string]
    decide
  · exact berToDer_eq_some.mpr
      ⟨nestedNode content, nested_encodes (by omega), by rw [nestedNode_canon]⟩
  · have inner := length_single (length_single (length_single string rfl) rfl) rfl
    rw [nestedNode, encode_single, inner]
    rfl

/-- A string of no chunks, a string under a context tag of two octets, and an
    input whose output is too long to be read again. -/
theorem berToDer_not_canonical :
    (Encodes (MAX_DEPTH + 1) [0x24, 0] (.constructed [0x24] []) ∧
      Encodes (MAX_DEPTH + 1) [0x24, 2, 4, 0] (.constructed [0x24] [.primitive [4] []]) ∧
      berToDer [0x24, 0] ≠ berToDer [0x24, 2, 4, 0]) ∧
    (Encodes (MAX_DEPTH + 1) [0xBF, 0x1F, 6, 4, 1, 0xAA, 4, 1, 0xBB]
        (.constructed [0xBF, 0x1F] [.primitive [4] [0xAA], .primitive [4] [0xBB]]) ∧
      Encodes (MAX_DEPTH + 1) [0xBF, 0x1F, 4, 4, 2, 0xAA, 0xBB]
        (.constructed [0xBF, 0x1F] [.primitive [4] [0xAA, 0xBB]]) ∧
      berToDer [0xBF, 0x1F, 6, 4, 1, 0xAA, 4, 1, 0xBB] ≠
        berToDer [0xBF, 0x1F, 4, 4, 2, 0xAA, 0xBB]) ∧
    ∃ input output, input.length < 2 ^ 32 ∧ berToDer input = some output ∧
      berToDer output = none := by
  have low : TagOk [0x24] := .low (by decide)
  have high : TagOk [0xBF, 0x1F] := @TagOk.high 0xBF 0x1F [] rfl nofun rfl (by decide)
  refine ⟨⟨?_, ?_, by decide⟩, ⟨?_, ?_, by decide⟩, ?_⟩
  · exact encodes_chunks [0x24] [0] [] nofun low rfl (.definite _) (.short (by decide))
  · exact encodes_chunks [0x24] [2] [[]] (by decide) low rfl (.definite _) (.short (by decide))
  · exact encodes_chunks [0xBF, 0x1F] [6] [[0xAA], [0xBB]] (by decide) high rfl (.definite _)
      (.short (by decide))
  · exact encodes_chunks [0xBF, 0x1F] [4] [[0xAA, 0xBB]] (by decide) high rfl (.definite _)
      (.short (by decide))
  · have long : (List.replicate (2 ^ 32 - 23) (0 : UInt8)).length = 2 ^ 32 - 23 :=
      List.length_replicate
    exact ⟨_, _, berToDer_nested long⟩

end Limits

end EnclaveSigner.Kms
