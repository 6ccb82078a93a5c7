import EnclaveSigner.Spv.NoWedge

/-! # The end of the heights

Heights have 32 bits, and `2 ^ 32` is no multiple of 2016. The height after the
last one is zero: a retarget boundary with no epoch before it. On a proof-of-work
network a batch that gets there is refused, because the first block of that
epoch is looked for below zero.
-/

namespace EnclaveSigner.Spv.HeaderChain

open Lib Bitcoin

def LAST_BOUNDARY : BlockHeight := 4294967040

/-- `n` headers on `checkpoint` in strict order of time, at one difficulty. -/
structure Steady (btc : Crate) (checkpoint : Checkpoint) (nowUnix : UInt64)
    (headers : Nat → Header) (n : Nat) : Prop where
  first : (headers 0).prevBlockhash = checkpoint.hash
  linked : ∀ i < n, (headers (i + 1)).prevBlockhash = (headers i).blockHash btc
  bits : ∀ i, (headers i).bits = checkpoint.bits
  later : ∀ i < n, checkpoint.time < (headers i).time
  increasing : ∀ i < n, ∀ j < i, (headers j).time < (headers i).time
  recent : ∀ i < n, (headers i).time.toUInt64 ≤ satAdd64 nowUnix MAX_FUTURE_BLOCK_TIME_SECS
  pow : ∀ i < n, (headers i).validatePow btc ((headers i).target btc) = true

def stagedUpTo (btc : Crate) (headers : Nat → Header) (n : Nat) : List Staged :=
  (List.range n).map fun i => (headers i, (headers i).blockHash btc)

section

variable {btc : Crate} {checkpoint : Checkpoint} {nowUnix : UInt64} {headers : Nat → Header}
  {n : Nat}

theorem stagedUpTo_succ (btc : Crate) (headers : Nat → Header) (n : Nat) :
    stagedUpTo btc headers (n + 1)
      = stagedUpTo btc headers n ++ [(headers n, (headers n).blockHash btc)] := by
  rw [stagedUpTo, List.range_succ, List.map_append]
  rfl

theorem stagedUpTo_length (btc : Crate) (headers : Nat → Header) (n : Nat) :
    (stagedUpTo btc headers n).length = n := by
  simp [stagedUpTo]

theorem Steady.prevOf_eq (steady : Steady btc checkpoint nowUnix headers n) {i : Nat}
    (inside : i < n) :
    ∃ prevTime, prevOf (checkpoint.hash, checkpoint.bits, checkpoint.time)
      (stagedUpTo btc headers i) = ((headers i).prevBlockhash, (headers i).bits, prevTime) := by
  cases i with
  | zero => exact ⟨checkpoint.time, by rw [steady.first, steady.bits]; rfl⟩
  | succ i =>
      refine ⟨(headers i).time, ?_⟩
      rw [stagedUpTo_succ, prevOf, List.getLast?_concat, steady.linked i (by omega), steady.bits]
      exact congrArg (fun bits => (_, bits, _)) (steady.bits i)

theorem time_of_blockAt {network : Network} {height start : BlockHeight} {staged : List Staged}
    {block : UInt32 × UInt32}
    (found : (new network checkpoint).blockAt height start staged = .ok block) :
    block.1 = checkpoint.time ∨ ∃ entry ∈ staged, block.1 = entry.1.time := by
  have empty : (new network checkpoint).headerAt height = none := by
    rw [headerAt]
    split
    · rfl
    · rfl
  simp only [blockAt, empty, Option.or_none] at found
  split at found
  · rename_i header held
    cases found
    obtain ⟨entry, lookup, rfl⟩ := Option.map_eq_some_iff.mp held
    obtain ⟨i, -, member⟩ := Option.bind_eq_some_iff.mp lookup
    exact .inr ⟨entry, List.mem_of_getElem? member, rfl⟩
  · split at found
    · cases found
      exact .inl rfl
    · cases found

theorem medianTimePast_mem (times : List UInt32) :
    medianTimePast times = 0 ∨ medianTimePast times ∈ times := by
  rw [medianTimePast, List.getD_eq_getElem?_getD]
  cases found : (times.insertionSort (· ≤ ·))[times.length / 2]? with
  | none => exact .inl rfl
  | some time =>
      exact .inr ((List.mem_insertionSort _).mp (List.mem_of_getElem? found))

theorem placed_last (last : checkpoint.height = LAST_BOUNDARY) {count : Nat}
    (small : count ≤ MAX_STORED_HEADERS) :
    (new .mainnet checkpoint).Placed (LAST_BOUNDARY + 1) count 0 := by
  have base : (new .mainnet checkpoint).baseHeight = LAST_BOUNDARY := last
  have none_kept : (new .mainnet checkpoint).kept (LAST_BOUNDARY + 1) = 0 := by
    rw [kept, base]
    rfl
  refine ⟨?_, ?_, ?_, ?_, by decide, ?_⟩
  · rw [none_kept, base]
    rfl
  · exact none_kept.le
  · rw [base]
    change LAST_BOUNDARY.toNat + 0 + 1 < 2 ^ 32
    decide
  · rw [none_kept]
    rfl
  · rw [none_kept, Nat.zero_add]
    exact small

theorem Steady.checkTimeTooOld (steady : Steady btc checkpoint nowUnix headers n) {i : Nat}
    (inside : i < n) {height other start : BlockHeight} {median : Option UInt32}
    (found : (new .mainnet checkpoint).medianTimePastBelow other start
      (stagedUpTo btc headers i) = .ok median) :
    checkTimeTooOld height (headers i).time median = .ok () := by
  have earlier : ∀ time, time = checkpoint.time ∨
      (∃ entry ∈ stagedUpTo btc headers i, time = entry.1.time) → time < (headers i).time := by
    rintro time (rfl | ⟨entry, member, rfl⟩)
    · exact steady.later i inside
    · obtain ⟨j, before, rfl⟩ := List.mem_map.mp member
      exact steady.increasing i inside j (List.mem_range.mp before)
  cases median with
  | none => rfl
  | some median =>
      rw [Spv.checkTimeTooOld, refuse_ok, UInt32.not_le]
      simp only [medianTimePastBelow] at found
      split at found
      · cases found
      obtain ⟨times, window, same⟩ := bind_ok.mp found
      cases same
      rcases medianTimePast_mem times with zero | member
      · rw [zero]
        exact UInt32.lt_of_le_of_lt UInt32.zero_le (steady.later i inside)
      · obtain ⟨height, -, read⟩ := mem_of_mapM_ok window member
        cases held : (new .mainnet checkpoint).blockAt height start
            (stagedUpTo btc headers i) with
        | error e =>
            rw [held] at read
            cases read
        | ok block =>
            rw [held] at read
            rw [← Except.ok.inj read]
            exact earlier _ (time_of_blockAt held)

theorem not_boundary {i : Nat} (small : i < 255) :
    isRetargetHeight (LAST_BOUNDARY + 1 + UInt32.ofNat i) = false := by
  have index : (UInt32.ofNat i).toNat = i := toNat_ofNat32 (by omega)
  have start : (LAST_BOUNDARY + 1).toNat = 4294967041 := rfl
  rw [Bool.eq_false_iff, Ne, isRetargetHeight_iff, toNat_add32 (by omega), index, start]
  omega

theorem Steady.checkHeader (steady : Steady btc checkpoint nowUnix headers n)
    (last : checkpoint.height = LAST_BOUNDARY)
    (strict : btc.mainnet.allowMinDifficultyBlocks = false) {i : Nat} (inside : i < n)
    (small : i < 255) :
    (new .mainnet checkpoint).checkHeader btc (LAST_BOUNDARY + 1) nowUnix
      (stagedUpTo btc headers i) (LAST_BOUNDARY + 1 + UInt32.ofNat i)
      (prevOf (checkpoint.hash, checkpoint.bits, checkpoint.time) (stagedUpTo btc headers i))
      (headers i) = .ok () := by
  have placed := placed_last last (show 255 ≤ MAX_STORED_HEADERS by decide)
  have length := stagedUpTo_length btc headers i
  have within : (stagedUpTo btc headers i).length ≤ 255 := by omega
  obtain ⟨median, window⟩ :=
    medianTimePastBelow_found (new_stored btc .mainnet checkpoint) placed within
  rw [length] at window
  have required : ∀ prevTime, (new .mainnet checkpoint).requiredBits btc
      (LAST_BOUNDARY + 1 + UInt32.ofNat i) (headers i).time (headers i).bits prevTime
      (LAST_BOUNDARY + 1) (stagedUpTo btc headers i) = .ok (some (headers i).bits) := by
    intro prevTime
    simp [requiredBits, bitsInput, expectedBits, not_boundary small, new, Network.enforcesPow,
      Network.allowsMinDifficulty, Network.asBitcoinParams, strict, bind, Except.bind, pure,
      Except.pure]
  obtain ⟨prevTime, prev⟩ := steady.prevOf_eq inside
  rw [prev]
  refine bind_ok.mpr ⟨_, required prevTime, bind_ok.mpr ⟨median, window, ?_⟩⟩
  rw [validateHeaderFull_ok]
  refine ⟨checkLinkage_ok.mpr rfl, rfl, ?_, steady.checkTimeTooOld inside window,
    checkBits_some_ok.mpr rfl, ?_⟩
  · rw [checkFutureTime, refuse_ok, gt_iff_lt, UInt64.not_lt]
    exact steady.recent i inside
  · rw [checkPow, steady.pow i inside]
    rfl

theorem Steady.stageHeaders (steady : Steady btc checkpoint nowUnix headers n)
    (last : checkpoint.height = LAST_BOUNDARY)
    (strict : btc.mainnet.allowMinDifficultyBlocks = false) (small : n ≤ 255) (rest : List Bytes)
    {k m : Nat} (total : k + m = n) :
    (new .mainnet checkpoint).stageHeaders btc (LAST_BOUNDARY + 1)
        (checkpoint.hash, checkpoint.bits, checkpoint.time) nowUnix k (stagedUpTo btc headers k)
        ((List.range' k m).map (fun i => (headers i).serialize) ++ rest)
      = (new .mainnet checkpoint).stageHeaders btc (LAST_BOUNDARY + 1)
        (checkpoint.hash, checkpoint.bits, checkpoint.time) nowUnix n (stagedUpTo btc headers n)
        rest := by
  induction m generalizing k with
  | zero =>
      obtain rfl : k = n := total
      rfl
  | succ m ih =>
      rw [List.range'_succ, List.map_cons, List.cons_append, HeaderChain.stageHeaders,
        Header.deserialize_serialize]
      change ((new .mainnet checkpoint).checkHeader _ _ _ _ _ _ _ >>= _) = _
      have next : k + 1 + m = n := by omega
      rw [steady.checkHeader last strict (by omega) (by omega), ← ih next, stagedUpTo_succ]
      rfl

theorem Steady.wedges (steady : Steady btc checkpoint nowUnix headers 255)
    (last : checkpoint.height = LAST_BOUNDARY)
    (strict : btc.mainnet.allowMinDifficultyBlocks = false) :
    submitHeaders btc (LAST_BOUNDARY + 1)
        ((List.range 256).map fun i => (headers i).serialize) nowUnix (new .mainnet checkpoint)
      = .error (.headerNotFound 0) (new .mainnet checkpoint) := by
  have stored := new_stored btc .mainnet checkpoint
  have batch : (List.range 256).map (fun i => (headers i).serialize)
      = (List.range' 0 255).map (fun i => (headers i).serialize) ++ [(headers 255).serialize] := by
    rw [← List.range_eq_range', List.range_succ, List.map_append, List.map_singleton]
  have length : ((List.range 256).map fun i => (headers i).serialize).length = 256 := by
    rw [List.length_map, List.length_range]
  have placed := placed_last last (show 256 ≤ MAX_STORED_HEADERS by decide)
  have place := (placeBatch_ok stored).mpr placed
  rw [← length] at place
  have found : (new .mainnet checkpoint).predecessor (LAST_BOUNDARY + 1 - 1)
      = .ok (checkpoint.hash, checkpoint.bits, checkpoint.time) := if_pos last.symm
  have nonempty : (List.range 256).map (fun i => (headers i).serialize) ≠ [] := by
    rw [batch]
    exact List.append_ne_nil_of_right_ne_nil _ (List.cons_ne_nil _ _)
  refine submitHeaders_of_error nonempty (by rw [length]; decide) (.inr ⟨_, _, place, found, ?_⟩)
  rw [batch]
  refine (steady.stageHeaders last strict le_rfl _ (Nat.zero_add 255)).trans ?_
  rw [HeaderChain.stageHeaders, Header.deserialize_serialize]
  rfl

end

section Samples

/-- A checkpoint at the last boundary with a target that nearly every hash
    meets. -/
def lastCheckpointAligned : Checkpoint := ⟨LAST_BOUNDARY, .zero 32, 0x2100ffff, 1000, none⟩

def lastHashes : List Nat := [
  0x9b57ccef72c7811fb035fea0b8ed434e87c9a7cfa2deb3aaabcb6106542eb017,
  0x6f80c370f320fa8b6cefd43832c11e8f74b9ace75818cae41d5e0b5d3470885d,
  0x0ba48cb989258942413c7f1047ecb3409c2b198ff521ba022264c0ea77b1d409,
  0x0165e0814e56644e9a84262893e128505235e741f12144182c50beb4f381deae,
  0x5c6ac06e8a9a208dc0208a612ea3f5b63309596c44c8a0d6c432e3654f57359d,
  0xa3d023d4e33ca18a80e91067c683233c49292720676abfd6552611c1a145b4cb,
  0x2ee9726f79527649ea597bca6502dbce96343f95a3ecf78ca9c7a7c5f2ac39dd,
  0x2e6e1e7d4803d2f4a1ea42a5420f13ccd9bf93a2eff8c8b12eae429cbfefbbce,
  0xf6820d61d6dd3d2ec8ab38e6700c67fab13b995dc61762d9276235a884e94713,
  0xf5a3019641af4f59b4dcf4d2331e3e6da414b4d9edc8a325d752b7ee36a11255,
  0xceae2e299c4b135779ce825bcec22b5ad215bb6f9b10d936af424c27a78dc739,
  0x7a4cdcff11e5aef8202ab11c38d8dbc82beca48d3d843fedf550132963c5d55b,
  0xfe58cd472cec57aa585ed21f4dd18bccd0eb9d0e41c7431966a29faa55591ffa,
  0x3d79994169637128f2c25a21ee25da4f9450860e94fdb99cce7f2e491af16c9a,
  0x75479bb0a17d9d0407a9fc4380bbc55187b50b854f54ca4805189e8190780954,
  0x50cd36d4c41a2a67a2e020dbd5e49bbeef31d06b70a9acf8bc10aa87fe94a57f,
  0x8ac634d120fbd600458cd80c6343dd38a64798878bce726ba550d85c2a4ab069,
  0xd35d82e876dd1c5142311f1d43aca9e762aaf783c1293b412cc975d47013af58,
  0x810da0e7911ac3959a25399a834724ba0076b992b7be214f554257f68d0e0ffa,
  0x46aa5feb73328f87c3c07a0399fd67de1d64e02e6d8359392133f462f6bc86c8,
  0xc7ebfae5b4e6bba335ae14fe396546ebd95d38459a2f990d63e20c3ed0af3f89,
  0xfbb6b2e829cb14dfb6162dc4ff7abd828f7175a0d57601b61bf0c4c7f9afc946,
  0xd950b4fc395eddebc5bc01f3a0142ac5a20ba9408c5b3b693e9548113c6c9aa7,
  0x6c8a13281cbf51808c06e99d4113817b0bcd335e5fe58488fb8b623b516311da,
  0x2472fedfba98e889d8135c1dda3732e7ed601c7f23dbdcf6568c49073cd49771,
  0x701127db5815abf240b6534ef7931cac7bbab356f041d4fb92a46e3eac23f23d,
  0x72e62a4aec3581a03ac4129857a86b0ecf73e35ec550d2aba83ce3ef2badf3ad,
  0x2ea64544dbc43000917edd7bb43da004ba27be6755b89fb7347962580624dca8,
  0x7c18beec8477827d61baeace96e2c73f47ec9f880a4fcbaf6f3b9c2e158f71aa,
  0xa57e9e1d6ab3669f2b444a96c24849202c35fcf996ac1efc4e2708b9ec74877f,
  0x08a02808fbaa113add26a3ab2a2bf7bd4b526dd3bcc3326bad34f5386cfe22ce,
  0xfe5b546b1a313648b7bd8e2813085ed7984b1a4d813fdcbb67a10451ade5c226,
  0xdf81b4b773900fa35047e53486bbd284e25516f3bbc2b851d37078d972873459,
  0xacbed58550afabff89723a8cf11eb077eddc4e3a515079c98a3cee2fe51357df,
  0xa6f6a16459e9cf2c755fd07563a9ddb99f7853fb1d3a7fd62d623b8d106740fc,
  0xf1a82d6cef5123202f3489bf97e660401c9e00a4e33380aad84820f90a9db0e3,
  0x4c534162a2ac83b8fa2cc1914733e84b89a02cf86e44178907209ca9ae43da48,
  0x423920bccb159976412eb3ccbf7c3e5ca905a70ec9cd3175754577b2a5d1c043,
  0xfa35533d4f6268186daa10f0a0a4a7847602767ba50f7f8f0a642a15151647ca,
  0x60890ed7a65de3a4bea8e4f0767af12780fe4c6df1922eca9b5890d8e05b5ac4,
  0xd42093b2f35d80370b83b2a4807d44c4baa90c5269195785f626b1932e425543,
  0x150255d0c3cbdf6985e30cf6bc6c32fc3355595aa55c70f630a3d6723fc3a03c,
  0x38b130d927cf42e0caec5f1cc25677a0048fe9142b2fe8df947dc06521a735dc,
  0x58997df8810e2996abc912a8b32e4f1d4fc923df6ff044d2cc289922a8a33e56,
  0xb214678921f6487cff94b9b6db0f3037f7caa57c73f9f6f2d934c0d2667336bf,
  0x2741b0a933d76a71906ab49140320ea32418109be89a85cb18d23326acad5106,
  0x3d4c54ce5adb01975149badbabfab8d87fcce9aae20f49c9d65401a623ad5bc4,
  0xcb82d5256c7ec632cc60a6de271590afaea639f50f324b7a374f37f8877e5b2e,
  0xc512165245458c8dcd713e8459d5dba189f4f17e6c0b4fff41f15fef54b37a87,
  0xae677799ed56b56be79c5fe225e065591b90da7b259612b2551fbdc2d69d74bf,
  0xc1ff7a75801a590606d558c5de8f7a964ecbe5c2f1b5674366ac3fcbf4ca96a3,
  0x3b985174b45e70078b837b19ad72e097514c15d08a3022904db8aa67e86b3d0d,
  0x6ba53ec51882b2fda007c667b77cb1dd4f8a08e920731a9debc0dcf5318a4e1d,
  0x2bf3d0325e1b0742b6245be3b2213d6e7d9cdef7e9dfc6dfce730227b1e8df12,
  0xfe9fe80cf07a5580443d0aebf20da71c70aa21ef69a3747dd7be85324d403757,
  0x541558b3e62a51f492d8b6a87644690df3dad13d80595e3032b5b49fe7c7c060,
  0xd5d669b2f8f026d3b1fd62bd3081a6aa5acd4f2aaca928124e9be8c194aa1330,
  0x522763057511a2e19ffa5bdd60878cf317c5539c9fe6c175f5a9eefe742f2f2e,
  0xa61a7155ba0bffe5bcc90858899107ab58998e38128ec6e7767f0bc3d114b0c7,
  0x3888d8e932994556805cb728bb838045c49dd19438bae3fa63187d07e99e0599,
  0xf76474b4827db9e728855d3d322e7892832734095ab5276d816c6e75560b94e4,
  0x6c7c4df4927cc4833ae31828613486640b87eb47cb290bd560431668bc223d70,
  0xf880cbeae3bd8bcb3e2460191b571ea6dbc560d035bac5e9a5e3c14d667440df,
  0x6be4835e924dc24db132226d2b55dc840749cb0dd21be72943836d80f713cc15,
  0x12aca8b01613c04a27db0d203fbe0d8c24508fba52e5eead5bc256ba94f74ca1,
  0xd912610f1b4c29d1f9980dc46e44f161ab1b0d72e29d6ddf8b8fc09b063b5fdc,
  0x9583186e5d79aeb3445bf320baba75a1408467dcd8d7ca47b32f2f26e4f6ed58,
  0x79dd9966c797cf9a7089af08da7e7f2ec2e1a75e2880cebd2df887e30566bb74,
  0xc8ed44963726fe7c41713efe0d82c7aa0ef4b6a7a20a357d7dcf86a02ec3acd7,
  0xa6b454bec2d6b1b9cb672670417cc0fb7bb14c770b7bcb058b604a3597777901,
  0x839b23333c549d495d87a6f2b001412398d45ceae3f3c2aa98eb789309421c2a,
  0x1e68039abf634129cd23c1422208710a5ab7b746decde547f0b85754e88891f6,
  0x0d6076338581adb240f1496d7758189948a0b138c7aa58785e520b3fa0c2f04c,
  0x45ad0ba848fb793682dd1b17ed2ef30da84ee01ec205fc3888f53f89ceca9554,
  0x4809f2baa075536050a794830cf0ccea50ca74363418687017bfeb929a338fa0,
  0xb7d2ba3c34282e34767c60189799fb0009c7f213af20a5bb0e2ca30b4a0e9b6d,
  0x7506249e857df7b3bddb8ac55d8a2ff5e0786af4265d41bb152f9f60bc535537,
  0x2d698e93169a3b4704da098f27fe3586f1d8b049202918b7879680feb794069d,
  0xeb9a9350b7ee51a29cd57e2c2409f9e1f24af34aa262e9c4732f02640437b8ae,
  0xd815127bdcc299d6212748cdde5106a78e76fb42ee8b305d8874ecb44ef328d3,
  0x473e394dc41eb7e5e4bc2d5e184786476af3b6aa956eeece49623846688bb54f,
  0x8230d394cfc5b98c56815609a9f9341e3113c0e865a3f8cf4263d99f548055d9,
  0x151998534abdeeceff82c3aea13838d233983fc732953dda614b5a299e119733,
  0xa4fbc2e9381a27abcefa76a82ddef42a5dd2b6e562f6e0f4d677f53a71de8414,
  0xaa47caaf27632d34928e97d6bbe0ba1b1a10203a975a6764dc66a700942c26e2,
  0xd1c8b0e4682c34a2368ee1c936db393911e1704bf46e9d6ac3903fe8e11e51c8,
  0x4ae8f7d146e31c3ce2370f71e369a1cd431aa11d59ba4e5d41b2731e18d06f15,
  0x6583ba2d88ab981781825f7dd42e23a17b06b1854610ae8393bfef3dd34d9f3c,
  0x71e331365b31f802d4122139ecdaf1199df61ea8cc2d7626db661a8ebeff86d4,
  0xf180116fca3cd7b2c54795510ee74bfe947366d6b53591143b23585d67d62812,
  0xce68b4107de6dd76485665f715d47574817ea6a4fee0aa85b14763d5ab675e63,
  0xe932396a46d7f987fe48454960f0c9db2b699f0eb1670e69bd2ddf13a8020988,
  0x9e70c29ba04ad353920adb8664eda466142b033917ef1aa01eee714f8734ae0b,
  0x83dc746171ee0cc45a5e2fc40105c3cb40f8299f870dbe21aecb0b9cd2c0b7c5,
  0x9af02a31ba97e3ea4d914d14815d60189702417a555f24f77e093dac05574499,
  0x2a058ed592d490d8add6257e481ce7808106e871d8d0f5c468c8aee86f3498f4,
  0xfb2b36b7fdc52e08681599567fc03d09ac153f1b28cba15d99286521fae238f1,
  0x06c4a250be0782a3728b60a67fb6e0134f0cd2c0bd1331bb00a35318ea135320,
  0xb1ea35cdbd76a42782b3491c75f5ed04f7616c1b4640f82c222665d20b91d79b,
  0x80c298c435b9837c0e07abfc63d451f7a506a72cdd79c1d49055709cf6eabdbf,
  0x7f1d91bc65e42976cfcc2f8fa66cb1a03e8a3b8a17c6b5760e0a2b9d4bd998a1,
  0x2297b4b9ba72bfbcc499e1a7320808d033cb2cc21df0552a47c6367e0659991b,
  0x9fdf08f45f159676059d10a6e51b306210917a6fdb098261b1da11ce3327298b,
  0x27c4c22b76a30a50b5826e5990167960e631229b0c89676ee08840a6863a43b9,
  0xcd78fd90e2a378f0e7f5c7118a6e5f1de0f0d394ec76b81e34a3146ea107195b,
  0x35d72a8ecb0cd7016150e1108ea7aa161a3adb80fa59ffeb0ef4d93f0183c565,
  0xccde9f1f85654c70df236cfd5094d85390f85dc6770dcb3f9955b1cc55e27661,
  0xf46344054195b75e50a1ec70ff86f4f15e3208dfe5e49e389d045341079534cb,
  0xcb66b21c3e8c8ac356f1a4749b8fa4c9ac2387af9168ee2fe35db4ca3f8ececd,
  0x7c4f8b82cbc1aab98bd6c480f64fbca37c3673cff745d070a696899e07cea104,
  0x6bd75c1b65a0bdf4c0c12f78bd67a3ab514886f6468c889fcaf0324b46ba8326,
  0xf3edf5007737e3e22dd964b018191908402affb81c7af8307df1418b10eec47f,
  0xc25dc89bdb96fd20340ff2ce11ddf988120ce63182b5bb9f285854769556af18,
  0x52996996e0990f19f7863eb3f2d2c81a63f541df012fd88c66dcceaad45a1007,
  0x8ffec91492e4663385b0fd3a8a9dacfed9e6cc639c0186bf2c6a0d79daa28a75,
  0xc8e441b37ae41437272abbe25459c0f11f203a242ad65d44978804ec1778ad7a,
  0xcc354a5b1948dc7bf7a01a469ce663a05e830f6890bd81cff0e89b138fc36eea,
  0xba3ff553b47094281e5c80fc5c7246cf85264913910769ce0d8323ec6729bf9d,
  0x0489f01722cee02dabd27e083cbed70f1127f2525d1c72a1fabd647130ff6f60,
  0xde339745057bd88031a8f3b9243f2c3883a0a327a5e7bb5fd5b00a500bc06cdc,
  0x065dd8e4577643f1f1b89032ecb89aa3efc23d6215fde3a8e5b24bc7f92ef01d,
  0xe3c35d8c26477e048c488ab2e7b500309a2835deefa9ac85892f3defd40a14c7,
  0x1b9839c2447861d8ca6fbfc9c88d888c6244a58d63f21719be2e76c6adfff2ac,
  0x62757885bc6b2b277230c6217ef782cd3d8e80c6a9f4146f840683731c157686,
  0x672bdea3d0b956115e9ad4fdf983fe99d907029f8da24cf6f3150f03f43fcb5f,
  0x674764c70b2f2586ef8d53d60d3d928e1b552af7fae8039c3648d5cf5d5ca2e9,
  0xd629229b446f65ba0a8077926d543f5c32c7662e2137159a31b04986231e4cdf,
  0xe02df51c1f8fb2ff6308c87bed810316337cb0c50c458009772efe4aea3ef5c6,
  0x50983beae7ad104e6a610bfc3d8a66107192abbaf0bb69868304ee10afa40c67,
  0xb026c9120d29c10f4599c24f48a6abeb5babd17fe3d95c72f75e4aa641292d7f,
  0x4e96c1b6575382d767d1eac9722c1e5a34e5e5c6dbfe5c3bdcfaedd78d80ecf7,
  0xa65af34801e82f2cd5816fa5c80fab3753ca311bb7b4575922c75c9323168211,
  0x6c4f481237208074ac43d553101ff76f37eb0688eb79ca962db30ab0f66a4363,
  0xceb88916bd1f0fde62a9082beb26bcdddf0aa733e27ba0b0d8df48cc2e4721f8,
  0x88b098ddafd0f7c6c7bd96692039fc88f5f3d0ba05310a93170b61eb34fdde94,
  0xa927990ab17dafe4d521eadac709b7f7526261c77d25303feea2cb90c4fe9fb2,
  0x5bbd8fadd16c63524b50afbe577ef5a61a6e637f893f3a59bc4b06a0f277bd6a,
  0xb731f3b779b925de3c4df00d80714ed6f508ddbf25706704060f366de67fe1d7,
  0x2d2f39beda1e01bbdf2c075f2dee6864600dd621ea34f4c0d7eb15ff1425e017,
  0x283423a0dbc45b2ce18dfdd14b9958c8320f00843ddea07c986e44d5e86e271e,
  0xb06328e8609367377cacf418ceff5760adecf23f5941383bc8a4b134674e104c,
  0x2faf9f3afd067fd7d436f8fcc00b14e84786a9096e45ea898d4502d45129b116,
  0xc0e4f74ed993ff2e2cc70a4b22459f431178c316cfebfc22337ba3e460dc0466,
  0xd726de51a3b3aae6c0b2fb1bc4494bca2812952a165a680bb4f569e6af1044d3,
  0x7cf083be03dd3b957f5a17d105ccb687152ea43d507f3c05104ce0e1c54fb792,
  0x54dc85b985f8cb618d494fdf57573aa0a7826c401ee1af2b71ff7962cfa38111,
  0x4ba123abd9016036c591fccd64e8fbf80fa498e3c3cb148927e78062e33d4041,
  0x55f83f15c3f1a5bede446784d6f06bd7964b67393755b5d69a8de7d39b17060a,
  0xe96d11638ce06646107e07e752c142768ccfbc09c275c4877eff2ea409f52e70,
  0x814bd39244e84776d809da5e77009036079fefda6311bbd3e7c6222abfbecd13,
  0x38488920b7967b10a832702385cb20faee2a7ba5b533fbec2ff7168c6f63c65c,
  0x99cf82bef54cb1b87a451c041ae53431615eb243c4b83617c27a753ace00b719,
  0x15f3e9c59d25cc4bca73e58adbffa8ff0e267042f4ddeb9c920a4b0c65c90d36,
  0x5884d829fb8d8658871ea97b80919e1c7de1ee384793095a1bdc19fa7a82c121,
  0x0f999423cdbbe0fe6195712d9767cafe6f83abf5c171b69ffae812da8b93921a,
  0x75dc8051117bb8044a2bd3fb3c9a25867bb5bbd76bbd74dc96d4e068a81f11ba,
  0xc3fc63b00d98eb91579e6c1c8e9f729100783b546d365a73c652682a871e92dc,
  0xe114c1b2ae6fd7fd632bb3e7220ce1eb5ffc2e3ad93ffc48a03b4b199defcff8,
  0x8e05f398fdd198af6f55962bf989dca09b992c1a7ea262b7e67bed07d8a7243a,
  0xd7ebc052c3b33f258c9015f5d689401b3adca8a815152f3c490c0ee6b57ce365,
  0xfd14d63d6beaa7757a14108578bad4055a80a91774ae60d92a300bdf71e8be59,
  0x3a764f9bfa1915ec8d2e5f31315a2cb2133e72ddb8c9f769bdcec174fe253176,
  0x2aab09102de450689834101ef38b7b5e3a2ee17f3bcf341950b8bab12b1132ff,
  0x19055686bed66cab8d0831d0ed9a8d0e47a48ec7473f860de7bc68f020a673c5,
  0x3eb9a1ac1a7af9d6c31df35c01d03cf57f4178c93905bfee15b368f494355573,
  0x1fd08f957489d887ca8880fe51980668469b370217190d394bba43eeebe4296d,
  0x98c17fb1fe8465430d3dc4157f0ce0be1e3e5c87d225f5017053689a9d01735a,
  0x3ee060474c83894051d4b9ac185d6ac6994e7aa3d306995cfa876455590e1508,
  0xaf37033711efcda6b97d3a6a34197721efefc45b9b962826cc711fcb1bf1464d,
  0xeabf175e8a5a931b892644b3d9e3834162f7994e9e0ca2985f027607f8850231,
  0xe08d92cf74ed4d696b0cb075e47a8ad38f1ded9a1dd3a2ba24ef9780eb9dd5ce,
  0x1bec7ee2315502230a4fff32f00d6f023fb4cca9d30537fab721264f44d78bc4,
  0xf8fd288d32eb7b89b3e66141b1f99eb497633c026f42eea4337fda6f4b9aaed8,
  0xd771ead43ba223014533c15d78f266c46c752f6c8f618d7d0afe5df53af193ac,
  0xe5c7178b600f1a81a888f32eda7667ccfc259e446e4fffee06065a2a1c13a682,
  0x26a025beae5d5cba430131b801fea941ac7d830c61451d1e38fd14bbcf4169dd,
  0x1b180d0f9f5b4871703352f818b46ee4d67100da00bebbe44fd219c78f744ad6,
  0xd93b6bcabc681a9a7b05f5d31be7535f472dd267a974e7088f84cbd828b3e87a,
  0xa16f9dcfd98c441073c3ba210a8b884626da54a72d0c323875b317df68fd6cf2,
  0xcc1830699233f233094018987a2255b204c01e621dff9bfaf0d3e3776515daa5,
  0xfb66a039dde3b70a133a86421b7b9b1828d7ac1cb768c16f381b858d7eed4dbd,
  0xec1a118b7dbca72886d62959c04e08ed6664f5c4e4897db8c3655edb2f0f4fd6,
  0x461457893ac1b7484c9524d68a30b40ec7f2bd3fad408c3e6a7d282149b240c8,
  0x62059b1706a789a9cd34fa17ebf8133b286bbe1a0ecfc15a19b9e49786e01eca,
  0x047a18fdce20ba2ef7da1e479b20a86284cfd4c55d591af813b2fdb0849edaf5,
  0x9b8f4b967bd2c05c08edaf6b0c59fe535371ed8ed9e31b68fb349933a94916e5,
  0xf6c9635537aa4363abec760c30bc36acbe2252c01d5c3d7aac638bebcc6f2e2f,
  0x3458e63cb1a8e7c3857d9eb9b83b06aacf14d0dbc069417936c5342b38ee79da,
  0x648f7813342fabab3b9393de3f0fcdab48a332040a210d39f337d924d1d820bc,
  0xcc695d1c6c5dba748a0821f801c741db40b6f2ac3a497b3b0c8dcb3bb71cf997,
  0xb94ca409c7a7fd15f98b06099b2f57af631bf3621ed055f80d4c0e70be1e0cd1,
  0xc1cb7c5ed7de5cdaf36ea5797c848a587ede49ed647a14d74912816019adf694,
  0x47a85d1e01b30c66670a411de4dc880e49e3d610a66526099649562cc2d133b3,
  0xaa451fa7ef8d4ab5350660953dd1ecbf86b9788a22478c2973344af88eb808de,
  0x9d45fc8314ee8f9328be18fa372285ca1621b929fd976d2d326930b3a988a780,
  0x603b5b357db4372805594464422bfb73e60a3ade1bb97f790f13c28ad9f22e7c,
  0xdf3b47f03e3c170a90f6621cf04045bef204cdd10bdc68fc5e3b37e3acf0d72a,
  0x4b75ec591980f522039818098c006cf3dbb5072e295342e31f0947b8a80e9928,
  0xcce7b7e8b4a918b985aa6710d589d92dc05bac84e3644db41311f66136967e5b,
  0xf87b0ff99aee87620b801acf678e01e1ea6065cc3674f21a8ec05167052299cf,
  0x575d24e898d1cdc56ab6921134ea4b124f0dae85e547b00d95a2a0f1d11099bd,
  0x079322deb7fbf41e127c4e56c863dc7d1398adb45a4fcf2f18797b1f93f9e8bf,
  0xd2e56db67c928b126e074c34d5cc89c2907da22f127cea2e7f9c36677310b126,
  0x5f4919d396483e931d4258749fb8eeda4f52f7eebb2bafabc6a081e4859f11ee,
  0x51bd8a027809a4b0e9f2cc43489cfa2516d893a17aa0728172543c0281fe238d,
  0x8389a12df1150702a3950bda08e4c602b703754b4faa131d356fa1ad7ef793b5,
  0x3e97317aa7e10bc914f680d5ab2a279a9c41339ef3bd23a6d3116e6f4ea43f44,
  0x834db17bef689c0afd6667ee83f4795c127c40e3d4cfdbce964ece0d3108f15f,
  0x8334dc2968225064c9db5e11a99af31e71aac01257d1ac6cb692594d4e821546,
  0x7e57c4f162b14bc6beb76ea61d89a9504354020acc39e5bc0defc74d2de9d9fe,
  0x116c07d680f7b2b2cedac467f79113d099e2e5007266be2cec04bd2476b018c3,
  0x0d41399551cdda3ed915eb9eecb0d83ccb520b9734d6c8f43e6734bdc86b4c4c,
  0xe8993329e198e16e668f2f6815070a8a9af3e2199f3d936662981b486870f627,
  0xd980ee033eeb57ab990cdfbcfa74a45c1ae4091f262d33986269972980756303,
  0xa793f15e94d2ebadb79a6dcc3b4674d065b399afcfec5e0d2ea226d449ee40cf,
  0x8d77d19fb22e0cefc32aa4dc745f0329df1015f0cd364c223d1933c2abc1000a,
  0x0d528a465beef0e59da25aa2e7d95a763a64ae45794f3796a3f70029fc17616d,
  0xb9950cbf3cec5606211f8945e00e0d384541513c1a2ed0e0f8549ba585115481,
  0x95ceb161efecad2c69a08f317aa67087bf7f63f14291a610b9437ee361583074,
  0x826d232bff5d6db79ffd3edf8901271b25e0c94eb8128f0408a03aad82eb2076,
  0xdece0fd187c8ba88e79152ea7eec6596f75991817902b99101b1c82697650a13,
  0xd237e2e9c4babeec83d6424e5d19574918624eeb174c74e2b40ef2980f588810,
  0x1005afb02d9d212c29344b71cf58d4a2c3c0baa6cb64eeed2ce1fef31a286238,
  0xf31f60277e3b99be35d2be69439322467bfe44ff57e0354866278b64dbb4619e,
  0x6c66cbc289cefa1b19e42ee3ebdcb7ed20b0d704baa694a8189042d76f730521,
  0x187f193dce18bd6c3bfdc58f274af836636bdbeec6de8ec747064bf5828c2571,
  0x75a394ce825ac0ce8a75e111bcaa0f78b1ff1a5f23ee524e308360f4fb795ff1,
  0x31dbd09fcbd3e6b1a72a9e2dedfb1fc705d6f897bd50e393267fca13e6ef554d,
  0xf6ea88993b63505b5913a8fc138edc868323d20f808bd210890b2dbc34704f33,
  0x9284d40733144d1d209d79e2caa00a42cb63c287d13a619080ed5dad431e20dd,
  0xd76c29e363ae9a36572420f22de9bd4921213257ddd2be8b82c979adbe8e7d7f,
  0xb9e7b0e80aa0a4dccde800794a6673e9537e664d34b64399db22ff1eccd5fd01,
  0xf448bf8b78e30e9550e2c1421764004598cb077e751df2845ef68b400fd51cf0,
  0x542f10118517f36aa2ef264ace8d296ebf6e1427964741b3efb4075220b23406,
  0xa16e1d16f353bd68a929d3b72c7617cd1a34f6e5fd5495d970fd3839d740c01e,
  0x0494e726e73a669cff94340b32368c2af9b83bc9141275a72b9a8d0710531363,
  0x8de49151c9bc251f007182768ac3854da8d77abd48a746867badcd60a0b9b991,
  0x0daf8fda858e2beaa70e5220e57f8a8d77a281c323fc4def39ba6183b86c49a2,
  0x0b6c67628c32bca43530409248da12ca8dd4b86c1770384dac8277a1e17fd28a,
  0xd5281d730f32bac45f4a94df74097704b11e687fcd60bbe2e4b9d215dfe1c3b2,
  0xfc20ff8e1f6b5d6d825cadcad4c4b888d424b8b4d25c7fc64740742f8d55f6ca,
  0x756238f911930a6170df71534379b203824895a3f6d0f9ef45a31c215c4f5324,
  0x80ca52dd9ea59b2fe323db071a2d87478c3e063a6e5e1d49ace668fce3b48c01,
  0xe796289fbb5166042823e238eef1269fa1f5bef617c00c8459e73fd02099919c,
  0xbb21bcc173ba45543d3f10018f04558010e5d64d8b0328c8586e6c92deb400f3,
  0x39e8c83873265d93f426bf262f5932a0849501d2bcd02ec76eaf19324921290d,
  0xc9985abc42a68342ee5dcd5deb2c66dea7e649a761f7aa2adb85aba909862c74,
  0x770b5f26381b7a71a7f87545cf597e2db58f18ce5b6208aabf64769a0091db72,
  0x768074d89e7f81cab29699bd58e4e50d1d4ec7aaaf7898934b83523037f00488,
  0x63872bcc5ac8ad04b2fc6851dc647ea8963c20323e3b52e1743e3bf74fc90367,
  0xdda1fd0aa8d1dbf40af9ac46c1a9a31853e525bdd48ffd52a0999dc39bf695a4,
  0xce826d382edaa94434a7e1ed6c4ca475d082d82defca8a4188fe98265399b9a6,
  0xe62589bb49f34efa4860fb9f93d3f07c3067a25b3bfaf1b8bec43493f2f1539c,
  0x09e6d5a4101aeb430a51a1dce93efded301f9815aace9a6781abb6139d87700a,
  0x224af98842d7d17fa92c1f00b791eb6c785304ef77bcec4d17734e5402e5e04b]

def lastHeader (i : Nat) : Header :=
  sampleHeader (.ofNatBe 32 ((0 :: lastHashes).getD i 0)) (UInt32.ofNat (1001 + i)) 0x2100ffff

/-- The double hash of `lastHeader`, which its time tells apart. -/
def lastCrate : Crate := crateWith fun bytes =>
  .ofNatBe 32 (lastHashes.getD ((readU32Le (bytes.drop 68)).toNat - 1001) 0)

theorem lastHeader_time {i : Nat} (small : i ≤ 255) : (lastHeader i).time.toNat = 1001 + i :=
  toNat_ofNat32 (by omega)

theorem lastHeader_blockHash {i : Nat} (small : i ≤ 255) :
    (lastHeader i).blockHash lastCrate = .ofNatBe 32 (lastHashes.getD i 0) := by
  obtain ⟨-, -, time, -⟩ := (lastHeader i).serialize_drop
  change Word.ofNatBe 32 (lastHashes.getD
    ((readU32Le ((lastHeader i).serialize.drop 68)).toNat - 1001) 0) = _
  rw [time, readU32Le_append, lastHeader_time small, Nat.add_sub_cancel_left]

theorem lastHashes_pow :
    ∀ hash ∈ lastHashes, ofLe (natBe 32 hash) ≤ (fromCompact 0x2100ffff).toNat := by
  decide +kernel

theorem lastHeader_steady : Steady lastCrate lastCheckpointAligned 2000 lastHeader 255 where
  first := by decide
  linked i inside := (lastHeader_blockHash inside.le).symm
  bits _ := rfl
  later i inside := by
    rw [UInt32.lt_iff_toNat_lt, lastHeader_time inside.le]
    change 1000 < _
    omega
  increasing i inside j before := by
    rw [UInt32.lt_iff_toNat_lt, lastHeader_time inside.le, lastHeader_time (by omega)]
    omega
  recent i inside := by
    rw [UInt64.le_iff_toNat_le, UInt32.toNat_toUInt64, lastHeader_time inside.le]
    change _ ≤ 9200
    omega
  pow i inside := by
    have length : lastHashes.length = 255 := by decide +kernel
    have member : lastHashes.getD i 0 ∈ lastHashes := by
      rw [List.getD_eq_getElem?_getD, List.getElem?_eq_getElem (by omega)]
      exact List.getElem_mem _
    have easy : (lastHeader i).target lastCrate = fromCompact 0x2100ffff :=
      congrArg fromCompact (show (lastHeader i).bits = 0x2100ffff from rfl)
    rw [Header.validatePow, lastHeader_blockHash inside.le, beq_self_eq_true, Bool.true_and,
      decide_eq_true_eq, easy]
    exact lastHashes_pow _ member

/-- A mainnet batch that passes the checks of its size and place and is refused
    for a block that is not there. -/
theorem wedge_at_last_height :
    let batch := (List.range 256).map fun i => (lastHeader i).serialize
    let chain := (new .mainnet lastCheckpointAligned).run lastCrate []
    lastCheckpointAligned.assertRetargetAligned .mainnet = .ok () ∧
      batch.length ≤ MAX_HEADERS_PER_SUBMIT ∧
      chain.placeBatch (LAST_BOUNDARY + 1) batch.length = .ok 0 ∧
      submitHeaders lastCrate (LAST_BOUNDARY + 1) batch 2000 chain
        = .error (.headerNotFound 0) chain :=
  ⟨by decide, by decide +kernel, by decide +kernel, lastHeader_steady.wedges rfl rfl⟩

end Samples

end EnclaveSigner.Spv.HeaderChain
