import Mathlib.Algebra.Order.Ring.Int
import ZeroVpn.Util.ZipSpec

/-!
# Extraction is contained, bounded and all or nothing

`built` is the tree that a list of entries stands for. While the entries are extracted one after the
other, the tree below the root is the one built from those done so far, and nothing else differs from
the prepared destination; a failure at any point leaves at most the part below the root changed, which
the handler removes.
-/

namespace ZeroVpn.ZipUtil

open FileTree List Prog

theorem toInt_sub_of_nonneg {a b : Int64} (ha : 0 ≤ a.toInt) (hb : 0 ≤ b.toInt) :
    (a - b).toInt = a.toInt - b.toInt := by
  have hlt := a.toInt_lt
  have hlt' := b.toInt_lt
  rw [Int64.toInt_sub]
  exact Int.bmod_eq_of_le (by omega) (by omega)

theorem toInt_add_of_lt {a b : Int64} (ha : 0 ≤ a.toInt) (hb : 0 ≤ b.toInt)
    (h : a.toInt + b.toInt < 2 ^ 63) : (a + b).toInt = a.toInt + b.toInt := by
  rw [Int64.toInt_add]
  exact Int.bmod_eq_of_le (by omega) (by omega)

theorem Chunk.toInt_length (chunk : Chunk) :
    (Int64.ofNat chunk.val.length).toInt = chunk.val.length := by
  have hle := chunk.property
  unfold bufferSize at hle
  exact Int64.toInt_ofNat_of_lt (by omega)

variable {t'' : Files} {total : Int64}

variable {limits : ExtractionLimits} {target : Path} {t t' : Files} {p root : Path}
  {done : List ZipEntry} {entry : ZipEntry}

section copy

/-- The tree `t` with other content in the file at `p`. -/
def Rewritten (t : Files) (p : Path) (content : List UInt8) (t' : Files) : Prop :=
  ∀ q, t'.node q = if q = p then some (.file content) else t.node q

variable {content : List UInt8}

theorem Rewritten.trans (h : Rewritten t p content t') (h' : Rewritten t' p content' t'') :
    Rewritten t p content' t'' := by
  intro q
  rw [h' q]
  split
  · rfl
  · next hne => rw [h q, if_neg hne]

/-- The trees agree but for one path. -/
def AgreeExcept (p : Path) (t t' : Files) : Prop := ∀ q, q ≠ p → t'.node q = t.node q

theorem Rewritten.agreeExcept (h : Rewritten t p content t') : AgreeExcept p t t' := by
  intro q hq
  rw [h q, if_neg hq]

theorem AgreeExcept.trans (h : AgreeExcept p t t') (h' : AgreeExcept p t' t'') :
    AgreeExcept p t t'' :=
  fun q hq => (h' q hq).trans (h q hq)

theorem rewritten_append (bytes : List UInt8) (h : t.node target = some (.file content)) :
    Rewritten t target (content ++ bytes) (t.append target bytes) :=
  fun _ => append_node h

/-- The bytes copied so far fit, with those of the entries before, into the limits. -/
structure Fits (limits : ExtractionLimits) (total entry : Int64) : Prop where
  total_nonneg : 0 ≤ total.toInt
  entry_nonneg : 0 ≤ entry.toInt
  entry_le : entry.toInt ≤ limits.maxEntryBytes.toInt
  total_le : total.toInt + entry.toInt ≤ limits.maxTotalBytes.toInt

/-- A chunk that passes the test fits too; no subtraction of the test wraps around. -/
theorem Fits.add {entry : Int64} (h : Fits limits total entry) (chunk : Chunk)
    (htest : ¬ (limits.maxEntryBytes - entry < Int64.ofNat chunk.val.length ∨
      limits.maxTotalBytes - total - entry < Int64.ofNat chunk.val.length)) :
    (entry + Int64.ofNat chunk.val.length).toInt = entry.toInt + chunk.val.length ∧
      Fits limits total (entry + Int64.ofNat chunk.val.length) := by
  obtain ⟨htotal, hentry, hle, hsum⟩ := h
  have hchunk := chunk.toInt_length
  have hmaxEntry := limits.maxEntryBytes.toInt_lt
  have hsub := toInt_sub_of_nonneg (a := limits.maxEntryBytes) (by omega) hentry
  have hsub₁ := toInt_sub_of_nonneg (a := limits.maxTotalBytes) (by omega) htotal
  have hsub₂ := toInt_sub_of_nonneg (a := limits.maxTotalBytes - total) (by omega) hentry
  rw [Int64.lt_iff_toInt_lt, Int64.lt_iff_toInt_lt, hsub, hsub₂, hsub₁, hchunk] at htest
  have hadd : (entry + Int64.ofNat chunk.val.length).toInt = entry.toInt + chunk.val.length := by
    rw [toInt_add_of_lt hentry (by omega) (by omega), hchunk]
  exact ⟨hadd, htotal, by omega, by omega, by omega⟩

theorem copyChunks_meets (chunks : List Chunk) {entry : Int64} (hfits : Fits limits total entry)
    (hfile : t.node target = some (.file content)) :
    Prog.Meets (On (· = t)) (copyChunks limits target total intact chunks entry)
      (fun bytes d => Rewritten t target (content ++ chunks.flatMap Subtype.val) d.files ∧
        Fits limits total bytes ∧
        bytes.toInt = entry.toInt + (chunks.flatMap Subtype.val).length)
      (On (AgreeExcept target t)) := by
  induction chunks generalizing entry t content with
  | nil =>
    rw [copyChunks]
    split
    · refine meets_pure ?_
      intro d hd
      subst hd
      refine ⟨fun q => ?_, hfits, by simp⟩
      split
      · next heq => rw [heq, hfile, flatMap_nil, append_nil]
      · rfl
    · refine meets_fail ?_
      intro d hd q _
      rw [hd]
  | cons chunk chunks ih =>
    rw [copyChunks]
    split
    · refine meets_fail ?_
      intro d hd q _
      rw [hd]
    · next htest =>
      obtain ⟨hadd, hfits'⟩ := hfits.add chunk htest
      have hwrite : Prog.Meets (On (· = t)) (Disk.writeFile target chunk.val)
          (fun _ d => d.files = t.append target chunk.val) (On (AgreeExcept target t)) := by
        refine writeFile_meets.imp (fun _ hd => hd) (fun _ _ hd => hd) ?_
        rintro d ⟨n, hd⟩
        show AgreeExcept target t d.files
        rw [hd]
        exact (rewritten_append _ hfile).agreeExcept
      refine hwrite.bind fun _ => ?_
      have happ := rewritten_append chunk.val hfile
      have hnode : (t.append target chunk.val).node target = some (.file (content ++ chunk.val)) := by
        rw [happ target, if_pos rfl]
      refine (ih hfits' hnode).imp (fun _ hd => hd) ?_ ?_
      · rintro bytes d ⟨hrew, hfit, hbytes⟩
        rw [flatMap_cons, ← append_assoc]
        refine ⟨happ.trans hrew, hfit, ?_⟩
        rw [hbytes, length_append]
        omega
      · exact fun d hd => happ.agreeExcept.trans hd

theorem copyEntry_meets {entry : ZipEntry} (hfits : Fits limits total 0)
    (hfile : t.node target = some (.file [])) :
    Prog.Meets (On (· = t)) (copyEntry limits target entry total)
      (fun bytes d => Rewritten t target entry.content d.files ∧ Fits limits total bytes ∧
        bytes.toInt = entry.content.length)
      (On (AgreeExcept target t)) := by
  refine (copyChunks_meets entry.chunks hfits hfile).bind fun bytes => ?_
  split
  · exact meets_fail fun d hd => hd.1.agreeExcept
  · refine meets_pure ?_
    rintro d ⟨hrew, hfit, hbytes⟩
    refine ⟨hrew, hfit, ?_⟩
    rw [hbytes]
    exact Int.zero_add _

/-- What a tree may have become when a file was being extracted at `target`. -/
def Touched (target : Path) (t t' : Files) : Prop :=
  ∃ t₁, t.AddsDirs target.dropLast t₁ ∧ AgreeExcept target t₁ t'

/-- What a tree becomes when a file is extracted at `target`. -/
def FileAdded (target : Path) (content : List UInt8) (t t' : Files) : Prop :=
  ∃ t₁, t.AddsDirs target.dropLast t₁ ∧ t₁.node target.dropLast = some .dir ∧
    Rewritten t₁ target content t'

theorem extractFile_meets {entry : ZipEntry} (hfits : Fits limits total 0) :
    Prog.Meets (On (· = t)) (extractFile limits target entry total)
      (fun total' d => FileAdded target entry.content t d.files ∧ Fits limits total' 0 ∧
        total'.toInt = total.toInt + entry.content.length ∧
        entry.content.length ≤ limits.maxEntryBytes.toInt)
      (On (Touched target t)) := by
  have hself : ∀ t', t.AddsDirs target.dropLast t' → Touched target t t' :=
    fun t' h => ⟨t', h, fun _ _ => rfl⟩
  unfold extractFile
  split
  · refine meets_fail ?_
    rintro d rfl
    exact hself _ .refl
  refine (ensureDirectory_meets.imp (fun _ hd => hd) (fun _ _ hd => hd) fun d => hself d.files).bind
    fun _ => meets_of_tree ?_
  rintro t₁ ⟨hadds, hdir⟩
  refine exist_meets.bind fun there => ?_
  split
  · refine meets_fail ?_
    rintro d ⟨hd, -⟩
    exact hself _ (hd ▸ hadds)
  have hstart : Prog.Meets (fun d => d.files = t₁ ∧ t₁.exist target = there) Disk.attempt
      (fun _ => On (· = t₁)) (On (Touched target t)) := by
    refine attempt_meets.imp (fun _ hd => hd.1) (fun _ _ hd => hd) ?_
    rintro d rfl
    exact hself _ hadds
  refine hstart.bind fun _ => ?_
  have hcreate : Prog.Meets (On (· = t₁)) (Disk.createFile target)
      (fun _ => On fun t₂ => t₁.create target = some t₂) (On (Touched target t)) := by
    refine createFile_meets.imp (fun _ hd => hd) (fun _ _ hd => hd) ?_
    rintro d rfl
    exact hself _ hadds
  refine hcreate.bind fun _ => meets_of_tree fun t₂ ht₂ => ?_
  have hnew : Rewritten t₁ target [] t₂ := (create_node ht₂).2
  have hfile : t₂.node target = some (.file []) := by rw [hnew target, if_pos rfl]
  have htouched : ∀ t₃, AgreeExcept target t₂ t₃ → Touched target t t₃ :=
    fun t₃ h => ⟨t₁, hadds, hnew.agreeExcept.trans h⟩
  refine ((copyEntry_meets hfits hfile).imp (fun _ hd => hd) (fun _ _ hd => hd)
    fun d => htouched d.files).bind fun bytes => ?_
  have hclose : Prog.Meets
      (fun d => Rewritten t₂ target entry.content d.files ∧ Fits limits total bytes ∧
        bytes.toInt = entry.content.length)
      Disk.attempt
      (fun _ => On fun t₃ => Rewritten t₂ target entry.content t₃ ∧ Fits limits total bytes ∧
        bytes.toInt = entry.content.length)
      (On (Touched target t)) :=
    attempt_meets.imp (fun _ hd => hd) (fun _ _ hd => hd) fun d hd => htouched _ hd.1.agreeExcept
  refine hclose.bind fun _ => meets_pure ?_
  rintro d ⟨hrew, ⟨hnonneg, hbytes, hle, hsum⟩, hlen⟩
  have hmax := limits.maxTotalBytes.toInt_lt
  have hadd := toInt_add_of_lt hnonneg hbytes (by omega)
  have hzero : (0 : Int64).toInt = 0 := rfl
  refine ⟨⟨t₁, hadds, hdir, hnew.trans hrew⟩, ⟨?_, ?_, ?_, ?_⟩, ?_, ?_⟩ <;> omega

end copy

/-- The node at `p` that the entries stand for: a file entry's content, or a directory that is an
entry or leads to one. -/
def built (root : Path) (entries : List ZipEntry) (p : Path) : Option (Node UInt8) :=
  match entries.find? fun entry => !entry.isDirectory && entry.target root == p with
  | some entry => some (.file entry.content)
  | none => if entries.any fun entry => p.isPrefixOf (entry.target root) then some .dir else none

/-- No file among the entries stands at the target or above it. -/
def Free (root : Path) (done : List ZipEntry) (target : Path) : Prop :=
  ∀ other ∈ done, other.isDirectory = false → ¬ other.target root <+: target

theorem Free.find?_eq_none (h : Free root done (entry.target root))
    (hp : p <+: entry.target root) :
    done.find? (fun e => !e.isDirectory && e.target root == p) = none := by
  refine List.find?_eq_none.mpr ?_
  intro other hother hfound
  rw [Bool.and_eq_true, Bool.not_eq_true', beq_iff_eq] at hfound
  exact h other hother hfound.1 (hfound.2 ▸ hp)

theorem any_isPrefixOf_concat :
    ((done ++ [entry]).any fun e => p.isPrefixOf (e.target root)) =
      ((done.any fun e => p.isPrefixOf (e.target root)) || p.isPrefixOf (entry.target root)) := by
  rw [any_append, any_cons, any_nil, Bool.or_false]

/-- A directory entry, and what leads to any entry, is a directory. -/
theorem built_concat_dir (h : Free root done (entry.target root)) (hp : p <+: entry.target root)
    (hdir : p ≠ entry.target root ∨ entry.isDirectory = true) :
    built root (done ++ [entry]) p = some .dir := by
  have hentry : [entry].find? (fun e => !e.isDirectory && e.target root == p) = none := by
    rw [find?_singleton, if_neg]
    rw [Bool.and_eq_true, beq_iff_eq]
    rintro ⟨hfile, rfl⟩
    rcases hdir with hne | hdir
    · exact hne rfl
    · rw [hdir] at hfile
      cases hfile
  have hpre : p.isPrefixOf (entry.target root) = true := List.isPrefixOf_iff_prefix.mpr hp
  rw [built, find?_append, h.find?_eq_none hp, hentry]
  dsimp only [Option.or]
  rw [any_isPrefixOf_concat, hpre, Bool.or_true, if_pos rfl]

theorem built_concat_file (h : Free root done (entry.target root))
    (hfile : entry.isDirectory = false) :
    built root (done ++ [entry]) (entry.target root) = some (.file entry.content) := by
  have hentry : [entry].find? (fun e => !e.isDirectory && e.target root == entry.target root) =
      some entry := by
    rw [find?_singleton]
    rw [hfile, beq_self_eq_true]
    rfl
  rw [built, find?_append, h.find?_eq_none (prefix_refl _), hentry]
  rfl

/-- An entry changes nothing that does not lead to it. -/
theorem built_concat_elsewhere (hp : ¬ p <+: entry.target root) :
    built root (done ++ [entry]) p = built root done p := by
  have hentry : [entry].find? (fun e => !e.isDirectory && e.target root == p) = none := by
    rw [find?_singleton, if_neg]
    rw [Bool.and_eq_true, beq_iff_eq]
    rintro ⟨-, rfl⟩
    exact hp (prefix_refl _)
  have hpre : p.isPrefixOf (entry.target root) = false := by
    rw [Bool.eq_false_iff]
    exact fun htrue => hp (List.isPrefixOf_iff_prefix.mp htrue)
  rw [built, built, find?_append, hentry, Option.or_none, any_isPrefixOf_concat, hpre,
    Bool.or_false]

section loop
variable {t₀ : Files}

/-- The trees agree but below the root. -/
def AgreeOutside (root : Path) (t t' : Files) : Prop := ∀ p, ¬ Below root p → t'.node p = t.node p

theorem AgreeOutside.trans (h : AgreeOutside root t t') (h' : AgreeOutside root t' t'') :
    AgreeOutside root t t'' :=
  fun p hp => (h' p hp).trans (h p hp)

/-- Directories on the way to a path in `root` are new only below it. -/
theorem agreeOutside_of_addsDirs (hroot : t.node root = some .dir) (hp : root <+: target)
    (h : t.AddsDirs target t') : AgreeOutside root t t' := by
  intro p hout
  rcases h p with heq | ⟨hnone, -, hpre⟩
  · exact heq
  · rcases prefix_or_prefix_of_prefix hpre hp with hle | hle
    · rcases eq_or_ne p root with rfl | hne
      · cases hnone.symm.trans hroot
      · have habove := node_above (by rw [hroot]; simp) hle hne
        cases hnone.symm.trans habove
    · have heq : p = root := not_not.mp fun hne => hout ⟨hle, hne⟩
      subst heq
      cases hnone.symm.trans hroot

theorem agreeOutside_of_agreeExcept (hp : Below root target) (h : AgreeExcept target t t') :
    AgreeOutside root t t' := by
  intro p hout
  refine h p ?_
  rintro rfl
  exact hout hp

theorem agreeOutside_of_touched (hroot : t.node root = some .dir) (hp : Below root target)
    (h : Touched target t t') : AgreeOutside root t t' := by
  obtain ⟨t₁, hadds, hagree⟩ := h
  exact (agreeOutside_of_addsDirs hroot hp.prefix_dropLast hadds).trans
    (agreeOutside_of_agreeExcept hp hagree)

/-- The tree after the entries `done`: nothing but them below the root of `t₀`. -/
structure Extracting (root : Path) (done : List ZipEntry) (t₀ t : Files) : Prop where
  outside : AgreeOutside root t₀ t
  below : ∀ p, Below root p → t.node p = built root done p

theorem Extracting.dir (h : Extracting root done t₀ t) (hroot : t₀.node root = some .dir)
    (hfree : Free root done (entry.target root)) (hbelow : Below root (entry.target root))
    (hentry : entry.isDirectory = true) (hadds : t.AddsDirs (entry.target root) t')
    (hdir : t'.node (entry.target root) = some .dir) : Extracting root (done ++ [entry]) t₀ t' := by
  have hroot' : t.node root = some .dir := (h.outside root fun hb => hb.2 rfl).trans hroot
  refine ⟨h.outside.trans (agreeOutside_of_addsDirs hroot' hbelow.1 hadds), ?_⟩
  intro p hp
  by_cases hpre : p <+: entry.target root
  · rw [built_concat_dir hfree hpre (.inr hentry)]
    rcases eq_or_ne p (entry.target root) with rfl | hne
    · exact hdir
    · exact node_above (by rw [hdir]; simp) hpre hne
  · rw [built_concat_elsewhere hpre, ← h.below p hp]
    exact (hadds p).resolve_right fun hnew => hpre hnew.2.2

theorem Extracting.file (h : Extracting root done t₀ t) (hroot : t₀.node root = some .dir)
    (hfree : Free root done (entry.target root)) (hbelow : Below root (entry.target root))
    (hentry : entry.isDirectory = false)
    (hadded : FileAdded (entry.target root) entry.content t t') :
    Extracting root (done ++ [entry]) t₀ t' := by
  obtain ⟨t₁, hadds, hdir, hrew⟩ := hadded
  have hroot' : t.node root = some .dir := (h.outside root fun hb => hb.2 rfl).trans hroot
  have htouched : Touched (entry.target root) t t' := ⟨t₁, hadds, hrew.agreeExcept⟩
  refine ⟨h.outside.trans (agreeOutside_of_touched hroot' hbelow htouched), ?_⟩
  intro p hp
  rw [hrew p]
  split
  · next heq => rw [heq, built_concat_file hfree hentry]
  · next hne =>
    by_cases hpre : p <+: entry.target root
    · -- on the way to the file: its directory, or above it
      rw [built_concat_dir hfree hpre (.inl hne)]
      have hle : p <+: (entry.target root).dropLast :=
        Below.prefix_dropLast ⟨hpre, Ne.symm hne⟩
      rcases eq_or_ne p (entry.target root).dropLast with heq | hne'
      · rw [heq]
        exact hdir
      · exact node_above (by rw [hdir]; simp) hle hne'
    · rw [built_concat_elsewhere hpre, ← h.below p hp]
      refine (hadds p).resolve_right fun hnew => hpre ?_
      exact hnew.2.2.trans (List.dropLast_prefix _)

/-- The bytes of the files among the entries. -/
def fileBytes (entries : List ZipEntry) : Nat :=
  ((entries.filter (!·.isDirectory)).map (·.content.length)).sum

theorem fileBytes_concat (done : List ZipEntry) (entry : ZipEntry) :
    fileBytes (done ++ [entry]) =
      fileBytes done + if entry.isDirectory then 0 else entry.content.length := by
  rw [fileBytes, filter_append, map_append, fileBytes]
  cases h : entry.isDirectory <;> simp [h]

/-- The files are within the limits. -/
structure Bounded (limits : ExtractionLimits) (entries : List ZipEntry) : Prop where
  entry : ∀ e ∈ entries, e.isDirectory = false → e.content.length ≤ limits.maxEntryBytes.toInt
  total : fileBytes entries ≤ limits.maxTotalBytes.toInt

theorem Validated.free (h : Validated root limits (done ++ entry :: rest)) :
    Free root done (entry.target root) := by
  intro other hother hfile hpre
  have heq := h.leaf other (mem_append_left _ hother) entry (by simp) hfile hpre
  have hnodup := h.distinct
  rw [map_append, nodup_append] at hnodup
  exact hnodup.2.2 _ (mem_map_of_mem hother) _ mem_cons_self heq

/-- The loop over the entries, from a tree that holds those already done. -/
theorem extractEntries_meets (hroot : t₀.node root = some .dir) (rest : List ZipEntry)
    (hvalid : Validated root limits (done ++ rest)) (hfits : Fits limits total 0)
    (htotal : total.toInt = fileBytes done)
    (hdone : ∀ e ∈ done, e.isDirectory = false → e.content.length ≤ limits.maxEntryBytes.toInt)
    {t : Files} (ht : Extracting root done t₀ t) :
    Prog.Meets (On (· = t)) (extractEntries limits (targets root rest) total)
      (fun _ => On fun t' => Extracting root (done ++ rest) t₀ t' ∧ Bounded limits (done ++ rest))
      (On (AgreeOutside root t₀)) := by
  induction rest generalizing done total t with
  | nil =>
    refine meets_pure ?_
    intro d hd
    have hle := hfits.total_le
    have hzero : (0 : Int64).toInt = 0 := rfl
    rw [append_nil]
    exact ⟨hd ▸ ht, hdone, by omega⟩
  | cons entry rest ih =>
    have hfree := hvalid.free
    have hbelow := hvalid.below entry (by simp)
    have hroot' : t.node root = some .dir := (ht.outside root fun hb => hb.2 rfl).trans hroot
    have happ : done ++ entry :: rest = (done ++ [entry]) ++ rest := by simp
    rw [happ] at hvalid ⊢
    rw [targets, map_cons, extractEntries]
    split
    · next hentry =>
      refine (ensureDirectory_meets.imp (fun _ hd => hd) (fun _ _ hd => hd) fun d hd =>
        ht.outside.trans (agreeOutside_of_addsDirs hroot' hbelow.1 hd)).bind
        fun _ => meets_of_tree ?_
      rintro t' ⟨hadds, hdir⟩
      refine ih hvalid hfits ?_ ?_ (ht.dir hroot hfree hbelow hentry hadds hdir)
      · rw [fileBytes_concat, if_pos hentry, Nat.add_zero, htotal]
      · intro e he hfile
        rcases mem_append.mp he with he | he
        · exact hdone e he hfile
        · rw [mem_singleton.mp he, hentry] at hfile
          cases hfile
    · next hentry =>
      have hentry : entry.isDirectory = false := Bool.eq_false_iff.mpr hentry
      refine ((extractFile_meets hfits).imp (fun _ hd => hd) (fun _ _ hd => hd) fun d hd =>
        ht.outside.trans (agreeOutside_of_touched hroot' hbelow hd)).bind fun total' => ?_
      refine meets_of_tree (P := fun t' => FileAdded (entry.target root) entry.content t t' ∧
        Fits limits total' 0 ∧ total'.toInt = total.toInt + entry.content.length ∧
        entry.content.length ≤ limits.maxEntryBytes.toInt) ?_
      rintro t' ⟨hadded, hfits', htotal', hle⟩
      refine ih hvalid hfits' ?_ ?_ (ht.file hroot hfree hbelow hentry hadded)
      · rw [fileBytes_concat, hentry, htotal', htotal]
        simp
      · intro e he hfile
        rcases mem_append.mp he with he | he
        · exact hdone e he hfile
        · rw [mem_singleton.mp he]
          exact hle

end loop

section destination
variable {t₁ : Files}

/-- The root and everything below it is as before, and so is everything else but for directories
made on the way to the root. -/
structure RolledBack (root : Path) (t t' : Files) : Prop where
  inside : ∀ p, root <+: p → t'.node p = t.node p
  outside : t.AddsDirs root t'

theorem RolledBack.refl : RolledBack root t t := ⟨fun _ _ => rfl, .refl⟩

/-- The root is an empty directory now: it was one, or it has been created. -/
structure Prepared (root : Path) (t : Files) (created : Bool) (t₁ : Files) : Prop where
  dir : t₁.node root = some .dir
  empty : ∀ p, Below root p → t₁.node p = none
  kept : created = false → t₁ = t
  created : created = true → t.node root = none
  outside : t.AddsDirs root t₁

/-- New directories on the way to the root are not below it. -/
theorem node_of_addsDirs {t' : Files} (h : t.AddsDirs root t') (hp : Below root p) :
    t'.node p = t.node p :=
  (h p).resolve_right fun hnew => hp.2 (hnew.2.2.eq_of_length_le hp.1.length_le)

theorem prepareDestination_meets :
    Prog.Meets (On (· = t)) (prepareDestination root) (fun created => On (Prepared root t created))
      (On (RolledBack root t)) := by
  have hself : ∀ d : Disk, d.files = t → RolledBack root t d.files := fun d hd => hd ▸ .refl
  refine exist_meets.bind fun there => ?_
  split
  · refine (isDirectory_meets.imp (fun _ hd => hd.1) (fun _ _ hd => hd) fun _ hd => hd).bind
      fun isDir => ?_
    split
    · exact meets_fail fun d hd => hself d hd.1
    · next hdir =>
      have hlist : Prog.Meets (fun d => d.files = t ∧ t.isDirectory root = isDir)
          (Disk.listFiles root)
          (fun l d => d.files = t ∧ t.isDirectory root = isDir ∧
            (l = none ∨ l = some (t.listFiles root))) (On (RolledBack root t)) := by
        intro d hd
        have hrun := listFiles_meets (p := root) (E := On (RolledBack root t)) d hd.1
        revert hrun
        generalize (Disk.listFiles root).run d = r
        obtain ⟨e | l, d'⟩ := r
        · exact id
        · exact fun hrun => ⟨hrun.1, hd.2, hrun.2⟩
      refine hlist.bind fun l => ?_
      split
      · exact meets_fail fun d hd => hself d hd.1
      · next hempty =>
        refine meets_pure ?_
        rintro d ⟨hd, hisDir, hl⟩
        have hnode : t.node root = some .dir := by
          refine of_decide_eq_true (hisDir.trans ?_)
          simpa using hdir
        have hnil : t.listFiles root = [] := by
          rcases hl with hl | hl
          · exact absurd (not_not.mp hempty) (by rw [hl]; simp)
          · exact Option.some.inj (hl.symm.trans (not_not.mp hempty))
        show Prepared root t false d.files
        rw [hd]
        exact ⟨hnode, fun p hp => node_below_of_listFiles hnil hp, fun _ => rfl, nofun,
          .refl⟩
  · next hthere =>
    have hnone : there = t.exist root → t.node root = none := by
      intro heq
      rw [heq, exist, Option.not_isSome_iff_eq_none] at hthere
      exact hthere
    have hmkdirs : Prog.Meets (fun d => d.files = t ∧ t.exist root = there) (Disk.mkdirs root)
        (fun made d => (∃ limit, t.mkdirs limit root = (made, d.files)) ∧ t.node root = none)
        (On (RolledBack root t)) := by
      intro d hd
      have hrun := mkdirs_meets (p := root) (E := On (RolledBack root t)) d hd.1
      revert hrun
      generalize (Disk.mkdirs root).run d = r
      obtain ⟨e | made, d'⟩ := r
      · exact id
      · exact fun hrun => ⟨hrun, hnone hd.2.symm⟩
    refine hmkdirs.bind fun made => ?_
    cases made with
    | true =>
      refine meets_pure ?_
      rintro d ⟨⟨limit, hmade⟩, habsent⟩
      have hadds := mkdirs_addsDirs (t := t) (p := root) limit
      have hnode := mkdirs_node (p := root) limit (by rw [hmade])
      rw [hmade] at hadds hnode
      refine ⟨hnode, fun p hp => ?_, nofun, fun _ => habsent, hadds⟩
      rw [node_of_addsDirs hadds hp]
      exact node_below_of_not_dir (by rw [habsent]; simp) hp
    | false =>
      refine meets_fail ?_
      rintro d ⟨⟨limit, hmade⟩, -⟩
      have hadds := mkdirs_addsDirs (t := t) (p := root) limit
      have hnode := mkdirs_node_of_failed (p := root) limit (by rw [hmade])
      rw [hmade] at hadds hnode
      refine ⟨fun p hp => ?_, hadds⟩
      rcases eq_or_ne p root with rfl | hne
      · exact hnode
      · exact node_of_addsDirs hadds ⟨hp, hne⟩

theorem rollback_meets (h : Prepared root t created t₁) :
    Prog.Meets (On (AgreeOutside root t₁)) (rollback root created)
      (fun _ => On (RolledBack root t)) (On (RolledBack root t)) := by
  have hremove : Prog.Meets (On (AgreeOutside root t₁))
      (.write fun d => { d with files := d.files.removeBelow root } : Disk.Op Unit)
      (fun _ => On fun t₂ => ∀ p, t₂.node p = t₁.node p) (On (RolledBack root t)) := by
    refine meets_atomic ?_
    intro d hd p
    rw [node_removeBelow]
    split
    · next hp => exact (h.empty p hp).symm
    · next hp => exact hd p hp
  refine hremove.bind fun _ => ?_
  cases created with
  | false =>
    refine meets_pure ?_
    intro d hd
    have hsame : ∀ p, d.files.node p = t.node p := by
      intro p
      rw [← h.kept rfl]
      exact hd p
    exact ⟨fun p _ => hsame p, fun p => .inl (hsame p)⟩
  | true =>
    have habsent := h.created rfl
    refine meets_atomic ?_
    intro d hd
    -- the top exists, so it is not the root
    have hne : root ≠ [] := by
      rintro rfl
      cases habsent.symm.trans t.top
    have hnode : ∀ p, (d.files.delete root).node p = if p = root then none else t₁.node p := by
      intro p
      rw [node_delete hne fun q hq => (hd q).trans (h.empty q hq), hd p]
    refine ⟨fun p hp => ?_, fun p => ?_⟩
    · refine (hnode p).trans ?_
      split
      · next heq => rw [heq, habsent]
      · next hneq => exact node_of_addsDirs h.outside ⟨hp, hneq⟩
    · rcases eq_or_ne p root with rfl | hneq
      · exact .inl ((hnode p).trans (by rw [if_pos rfl, habsent]))
      · have hp : (d.files.delete root).node p = t₁.node p := (hnode p).trans (if_neg hneq)
        rw [hp]
        exact h.outside p

end destination

/-- The tree below the root is exactly the archive's entries and the directories leading to them,
each inside the root and all within the limits; outside, only directories on the way to the root can
be new. -/
structure Extracted (root : Path) (limits : ExtractionLimits) (entries : List ZipEntry)
    (t t' : Files) : Prop where
  contained : ∀ entry ∈ entries, Below root (entry.target root)
  distinct : (entries.map (·.target root)).Nodup
  rootDir : t'.node root = some .dir
  tree : ∀ p, Below root p → t'.node p = built root entries p
  count : entries.length ≤ limits.maxEntries
  bounded : Bounded limits entries
  outside : ∀ p, ¬ Below root p →
    t'.node p = t.node p ∨ t.node p = none ∧ t'.node p = some .dir ∧ p <+: root

theorem extract_meets (hvalid : Validated root limits entries) :
    Prog.Meets (On (· = t))
      (do
        let rootCreated ← prepareDestination root
        (extractEntries limits (targets root entries) 0).tryCatch fun error => do
          rollback root rootCreated
          .fail error)
      (fun _ => On (Extracted root limits entries t)) (On (RolledBack root t)) := by
  refine prepareDestination_meets.bind fun created => meets_of_tree fun t₁ h => ?_
  have hmax := Int64.lt_iff_toInt_lt.mp limits.maxEntryBytes_pos
  have hmax' := Int64.lt_iff_toInt_lt.mp limits.maxTotalBytes_pos
  have hzero : (0 : Int64).toInt = 0 := rfl
  have hfits : Fits limits 0 0 := ⟨by omega, by omega, by omega, by omega⟩
  have hstart : Extracting root [] t₁ t₁ := ⟨fun _ _ => rfl, h.empty⟩
  have hall : Validated root limits ([] ++ entries) := hvalid
  have hloop := extractEntries_meets h.dir entries hall hfits rfl
    (fun _ he => absurd he not_mem_nil) hstart
  refine (hloop.imp (fun _ hd => hd) ?_ fun _ hd => hd).tryCatch fun error => ?_
  · rintro _ d ⟨hext, hbound⟩
    refine ⟨hvalid.below, hvalid.distinct, ?_, hext.below, hvalid.count, hbound, ?_⟩
    · exact (hext.outside root fun hb => hb.2 rfl).trans h.dir
    · intro p hp
      rw [hext.outside p hp]
      exact h.outside p
  · exact (rollback_meets h).bind fun _ => meets_fail fun _ hd => hd

/-- The failed state for a destination that may have no canonical form. -/
def Undone (root? : Option Path) (t t' : Files) : Prop :=
  match root? with
  | some root => RolledBack root t t'
  | none => t' = t

theorem Undone.refl : Undone root? t t := by
  cases root? with
  | none => rfl
  | some root => exact RolledBack.refl

theorem extractArchive_meets (userDir destination : String) (zipFile : ZipFile)
    (limits : ExtractionLimits) :
    Prog.Meets (On (· = t)) (extractArchive userDir zipFile destination limits)
      (fun _ => On fun t' => ∃ root, File.canonicalFile userDir destination = some root ∧
        Extracted root limits zipFile.entries t t')
      (On (Undone (File.canonicalFile userDir destination) t)) := by
  have hself : ∀ d : Disk, d.files = t →
      Undone (File.canonicalFile userDir destination) t d.files := fun d hd => hd ▸ .refl
  unfold extractArchive
  split
  · exact meets_fail hself
  cases hroot : File.canonicalFile userDir destination with
  | none => exact meets_fail fun d hd => hd
  | some root =>
    rw [hroot] at hself
    dsimp only
    split
    · exact meets_fail hself
    have hvalidate : Prog.Meets (On (· = t)) (.ofExcept (validateEntries root limits zipFile))
        (fun m d => d.files = t ∧ m.entries = targets root zipFile.entries ∧
          Validated root limits zipFile.entries) (On (RolledBack root t)) := by
      refine meets_ofExcept (fun m hm d hd => ⟨hd, ?_⟩) hself
      exact validateEntries_eq_ok (File.canonicalFile_isCanonical hroot) hm
    refine hvalidate.bind fun m => ?_
    rintro d ⟨hd, hentries, hvalid⟩
    rw [hentries]
    refine (extract_meets hvalid).imp (fun _ hd => hd) ?_ (fun _ hd => hd) d hd
    exact fun _ d' hd' => ⟨root, rfl, hd'⟩

/-- Extraction either puts the archive's entries, and nothing else, strictly below the canonical
destination and within the limits, or fails and leaves the destination as it was. -/
theorem extractArchive_all_or_nothing (userDir : String) (zipFile : ZipFile) (destination : String)
    (limits : ExtractionLimits) (disk : Disk) :
    match (extractArchive userDir zipFile destination limits).run disk with
    | (.ok _, disk') => ∃ root, File.canonicalFile userDir destination = some root ∧
        Extracted root limits zipFile.entries disk.files disk'.files
    | (.error _, disk') =>
      Undone (File.canonicalFile userDir destination) disk.files disk'.files := by
  have hmeets := extractArchive_meets userDir destination zipFile limits disk rfl
  obtain ⟨r, hr⟩ : ∃ r, (extractArchive userDir zipFile destination limits).run disk = r := ⟨_, rfl⟩
  rw [hr] at hmeets ⊢
  obtain ⟨e | _, disk'⟩ := r
  · exact hmeets
  · exact hmeets

/-- An archive of one stored file of two declared bytes. -/
def oneFile (name : String) (chunk : Chunk) : ZipFile where
  isFile := true
  length := 10
  opens := true
  entries := [{ name, method := .stored, size := 2, compressedSize := 2, chunks := [chunk]
                intact := true }]

def smallLimits : ExtractionLimits where
  maxArchiveBytes := 100
  maxEntries := 2
  maxEntryBytes := 4
  maxTotalBytes := 4
  exceedsRatio _ _ := false
  maxArchiveBytes_pos := by decide
  maxEntries_pos := by decide
  maxEntryBytes_pos := by decide
  maxTotalBytes_pos := by decide

example : ((extractArchive "/" (oneFile "a/b" ⟨[1, 2], by decide⟩) "/out" smallLimits).run
    ⟨.empty, fun _ => none⟩).2.files.node ["out", "a", "b"] = some (.file [1, 2]) := by
  decide +kernel

-- one byte more than declared: the new destination is gone again
example : ((extractArchive "/" (oneFile "a/b" ⟨[1, 2, 3], by decide⟩) "/out" smallLimits).run
    ⟨.empty, fun _ => none⟩).2.files.node ["out"] = none := by
  decide +kernel

end ZeroVpn.ZipUtil
