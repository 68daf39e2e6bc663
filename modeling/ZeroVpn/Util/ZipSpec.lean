import ZeroVpn.Util.ZipUtil
import ZeroVpn.Std.Except

/-!
# What extraction does to the tree

One lemma per function of `ZipUtil`. A validated entry has its target strictly below the root, no
other entry's target, and no file above it. The operations on the disk are specified from a fixed
tree `t`: what they leave at every path when they succeed, and what they may have changed when they
fail.
-/

namespace ZeroVpn

open List Prog

namespace File

/-- The components have no separator in them. -/
def IsCanonical (p : Path) : Prop := ∀ c ∈ p, '/' ∉ c.toList

variable {p root : Path}

theorem resolveComponent_isCanonical {c : String} (hp : IsCanonical p) (hc : '/' ∉ c.toList) :
    IsCanonical (resolveComponent p c) := by
  unfold resolveComponent
  split
  · exact hp
  · split
    · exact fun d hd => hp d (mem_of_mem_dropLast hd)
    · intro d hd
      rcases mem_append.mp hd with hd | hd
      · exact hp d hd
      · rw [mem_singleton.mp hd]
        exact hc

theorem resolve_isCanonical (h : IsCanonical start) (text : String) :
    IsCanonical (resolve start text) := by
  have hparts : ∀ c ∈ Text.split '/' text, '/' ∉ c.toList := fun c => Text.notMem_of_mem_split
  rw [resolve]
  generalize Text.split '/' text = parts at hparts ⊢
  induction parts generalizing start with
  | nil => exact h
  | cons c cs ih =>
    rw [forall_mem_cons] at hparts
    exact ih (resolveComponent_isCanonical h hparts.1) hparts.2

theorem canonicalFile_isCanonical (h : canonicalFile userDir text = some p) : IsCanonical p := by
  unfold canonicalFile at h
  split at h
  · cases h
  · cases h
    have hnil : IsCanonical [] := nofun
    refine resolve_isCanonical ?_ text
    split
    · exact hnil
    · exact resolve_isCanonical hnil userDir

/-- The characters of a path below the top. -/
def chars (p : Path) : List Char := p.flatMap fun c => '/' :: c.toList

theorem path_toList (hp : p ≠ []) : (path p).toList = chars p := by
  rw [path, if_neg hp, String.toList_join, flatMap_map]
  refine flatMap_congr fun c _ => ?_
  rw [String.toList_append]
  rfl

/-- A component ends where the next separator is. -/
theorem component_unique (hc : '/' ∉ c) (hd : '/' ∉ d) (hy : y = [] ∨ ∃ y', y = '/' :: y')
    (h : c ++ '/' :: x <+: d ++ y) :
    c = d ∧ '/' :: x <+: y := by
  induction c generalizing d with
  | nil =>
    cases d with
    | nil => exact ⟨rfl, h⟩
    | cons a d =>
      rw [nil_append, cons_append, cons_prefix_cons] at h
      exact absurd (h.1 ▸ mem_cons_self) hd
  | cons b c ih =>
    rw [mem_cons, not_or] at hc
    cases d with
    | nil =>
      rcases hy with rfl | ⟨y', rfl⟩
      · simp at h
      · rw [nil_append, cons_append, cons_prefix_cons] at h
        exact absurd h.1.symm hc.1
    | cons a d =>
      rw [mem_cons, not_or] at hd
      rw [cons_append, cons_append, cons_prefix_cons] at h
      obtain ⟨rfl, hx⟩ := ih hc.2 hd.2 h.2
      exact ⟨by rw [h.1], hx⟩

theorem chars_cases (p : Path) : chars p = [] ∨ ∃ cs, chars p = '/' :: cs := by
  cases p with
  | nil => exact .inl rfl
  | cons c p => exact .inr ⟨_, rfl⟩

theorem exists_chars_concat (p : Path) : ∃ cs, chars p ++ ['/'] = '/' :: cs := by
  rcases chars_cases p with h | ⟨cs, h⟩
  · exact ⟨[], by rw [h]; rfl⟩
  · exact ⟨cs ++ ['/'], by rw [h]; rfl⟩

/-- The textual test for containment is containment of the components. -/
theorem prefix_of_chars (hroot : IsCanonical root) (hp : IsCanonical p)
    (h : chars root ++ ['/'] <+: chars p) : root <+: p := by
  induction root generalizing p with
  | nil => exact nil_prefix
  | cons c root ih =>
    cases p with
    | nil => simp [chars] at h
    | cons d p =>
      have hr : chars (c :: root) = '/' :: (c.toList ++ chars root) := rfl
      have hd : chars (d :: p) = '/' :: (d.toList ++ chars p) := rfl
      obtain ⟨cs, hcs⟩ := exists_chars_concat root
      rw [hr, hd, cons_append, cons_prefix_cons, append_assoc, hcs] at h
      have hsplit := component_unique (hroot c mem_cons_self) (hp d mem_cons_self)
        (chars_cases p) h.2
      rw [← hcs] at hsplit
      rw [cons_prefix_cons]
      refine ⟨String.toList_inj.mp hsplit.1, ih ?_ ?_ hsplit.2⟩
      · exact fun e he => hroot e (mem_cons_of_mem _ he)
      · exact fun e he => hp e (mem_cons_of_mem _ he)

theorem below_of_startsWith (hroot : IsCanonical root) (hp : IsCanonical p) (hne : p ≠ root)
    (h : Text.startsWith (path p) (path root ++ "/") = true) : Below root p := by
  refine ⟨?_, hne⟩
  rcases eq_or_ne root [] with rfl | hr
  · exact nil_prefix
  · have hpre := isPrefixOf_iff_prefix.mp h
    rw [String.toList_append, path_toList hr] at hpre
    rcases eq_or_ne p [] with rfl | hp'
    · -- the text of the top is shorter than that of a path below it
      obtain ⟨c, root, rfl⟩ := exists_cons_of_ne_nil hr
      have hlen := hpre.length_le
      simp [chars, path] at hlen
    · rw [path_toList hp'] at hpre
      exact prefix_of_chars hroot hp hpre

theorem parentFiles_concat (p : Path) (c : String) :
    parentFiles (p ++ [c]) = p :: parentFiles p := by
  unfold parentFiles
  rw [length_append, length_singleton, range_succ, reverse_append,
    reverse_singleton, singleton_append, map_cons, take_left]
  congr 1
  refine map_congr_left fun n hn => ?_
  have hlt : n < p.length := mem_range.mp (mem_reverse.mp hn)
  exact take_append_of_le_length hlt.le

/-- The walk up to the root meets every path between the two. -/
theorem mem_parentFiles {q : Path} (hq : Below root q) (h : q <+: p) (hne : q ≠ p) :
    q ∈ (parentFiles p).takeWhile (· ≠ root) := by
  induction p using reverseRecOn with
  | nil => exact absurd (prefix_nil.mp h) hne
  | append_singleton l c ih =>
    have hl : q <+: l := (prefix_concat_iff.mp h).resolve_left hne
    have hroot : l ≠ root := (hq.extend hl).2
    rw [parentFiles_concat, takeWhile_cons, if_pos (decide_eq_true hroot)]
    rcases eq_or_ne q l with rfl | hql
    · exact mem_cons_self
    · exact mem_cons_of_mem _ (ih hl hql)

end File

namespace ZipUtil

/-- Where an entry goes. -/
def ZipEntry.target (root : Path) (entry : ZipEntry) : Path :=
  File.resolve [] (File.childText root entry.name)

section validation
variable {root : Path} {limits : ExtractionLimits}

theorem startsWith_childText (name : String) :
    Text.startsWith (File.childText root name) "/" = true := by
  have hslash : ∃ cs, (File.path root).toList = '/' :: cs := by
    rcases eq_or_ne root [] with rfl | hroot
    · exact ⟨[], rfl⟩
    · obtain ⟨c, rest, rfl⟩ := exists_cons_of_ne_nil hroot
      exact ⟨_, File.path_toList hroot⟩
  obtain ⟨cs, hcs⟩ := hslash
  refine isPrefixOf_iff_prefix.mpr ?_
  rw [File.childText, String.toList_append, String.toList_append, hcs]
  exact ⟨_, rfl⟩

variable {entry : ZipEntry} {acc' : LinkedMap Path ZipEntry × Int64}

theorem resolveEntryTarget_eq_ok (hroot : File.IsCanonical root)
    (h : resolveEntryTarget root entry = .ok target) :
    target = entry.target root ∧ Below root target := by
  unfold resolveEntryTarget at h
  split at h
  · cases h
  · next p hp =>
    split at h
    · cases h
    · next hin =>
      cases h
      rw [not_or, not_not] at hin
      have hcanonical := File.canonicalFile_isCanonical hp
      refine ⟨?_, File.below_of_startsWith hroot hcanonical hin.1 hin.2⟩
      unfold File.canonicalFile at hp
      rw [if_pos (startsWith_childText entry.name)] at hp
      split at hp
      · cases hp
      · exact (Option.some.inj hp).symm

/-- One round adds its entry at a new target strictly below the root. -/
theorem validateEntry_eq_ok (hroot : File.IsCanonical root)
    (h : validateEntry root limits acc entry = .ok acc') :
    acc.1.entries.length < limits.maxEntries ∧ Below root (entry.target root) ∧
      acc'.1.entries = acc.1.entries ++ [(entry.target root, entry)] := by
  unfold validateEntry at h
  dsimp only at h
  split at h
  · cases h
  · next hcount =>
    split at h
    · cases h
    · split at h
      · cases h
      · obtain ⟨target, htarget, h⟩ := bind_eq_ok.mp h
        split at h
        · cases h
        · next hnew =>
          obtain ⟨total', -, h⟩ := bind_eq_ok.mp h
          cases h
          obtain ⟨rfl, hbelow⟩ := resolveEntryTarget_eq_ok hroot htarget
          exact ⟨Nat.lt_of_not_le hcount, hbelow, LinkedMap.entries_put_of_notMem hnew⟩

/-- What validation establishes. -/
structure Validated (root : Path) (limits : ExtractionLimits) (entries : List ZipEntry) : Prop where
  count : entries.length ≤ limits.maxEntries
  below : ∀ entry ∈ entries, Below root (entry.target root)
  distinct : (entries.map (·.target root)).Nodup
  /-- No target is below a file's. -/
  leaf : ∀ entry ∈ entries, ∀ other ∈ entries, entry.isDirectory = false →
    entry.target root <+: other.target root → entry.target root = other.target root

/-- The targets of a list of entries. -/
def targets (root : Path) (entries : List ZipEntry) : List (Path × ZipEntry) :=
  entries.map fun entry => (entry.target root, entry)

theorem foldlM_validateEntry (hroot : File.IsCanonical root) {entries : List ZipEntry}
    (h : entries.foldlM (validateEntry root limits) (.empty, 0) = .ok acc') :
    acc'.1.entries = targets root entries ∧ entries.length ≤ limits.maxEntries ∧
      ∀ entry ∈ entries, Below root (entry.target root) := by
  -- the loop against the list of the entries seen so far
  have hsim := foldlM_simulates
    (g := fun seen entry => seen ++ [entry])
    (R := fun acc seen => acc.1.entries = targets root seen ∧ seen.length ≤ limits.maxEntries ∧
      ∀ entry ∈ seen, Below root (entry.target root))
    ?_ (c := []) ⟨rfl, Nat.zero_le _, nofun⟩ h
  · have hfold : entries.foldl (fun seen entry => seen ++ [entry]) [] = entries := by
      simp [← flatMap_def]
    rwa [hfold] at hsim
  · intro entry _ acc seen acc₁ hseen hround
    obtain ⟨hentries, -, hbelow⟩ := hseen
    obtain ⟨hlt, hentry, hput⟩ := validateEntry_eq_ok hroot hround
    have hlen : acc.1.entries.length = seen.length := by rw [hentries, targets, length_map]
    refine ⟨?_, ?_, ?_⟩
    · rw [hput, hentries, targets, targets, map_append, map_singleton]
    · rw [length_append, length_singleton]
      omega
    · intro e he
      rcases mem_append.mp he with he | he
      · exact hbelow e he
      · rw [mem_singleton.mp he]
        exact hentry

theorem lookup_of_mem {m : LinkedMap Path ZipEntry} (h : (p, entry) ∈ m.entries) :
    m.entries.lookup p = some entry := by
  obtain ⟨entries, hnodup⟩ := m
  induction entries with
  | nil => cases h
  | cons e es ih =>
    rw [map_cons, nodup_cons] at hnodup
    rw [lookup_cons]
    rcases mem_cons.mp h with rfl | h
    · rw [beq_self_eq_true]
    · have hne : p ≠ e.1 := by
        rintro rfl
        exact hnodup.1 (mem_map.mpr ⟨_, h, rfl⟩)
      rw [beq_false_of_ne hne]
      exact ih hnodup.2 h

theorem validateEntries_eq_ok (hroot : File.IsCanonical root) {zip : ZipFile}
    {m : LinkedMap Path ZipEntry} (h : validateEntries root limits zip = .ok m) :
    m.entries = targets root zip.entries ∧ Validated root limits zip.entries := by
  obtain ⟨⟨m', total⟩, hfold, h⟩ := bind_eq_ok.mp h
  dsimp only at h
  split at h
  · cases h
  · next hleaf =>
    cases h
    obtain ⟨hentries, hcount, hbelow⟩ := foldlM_validateEntry hroot hfold
    have hkeys : m.keys = zip.entries.map (·.target root) := by
      rw [LinkedMap.keys, hentries, targets, map_map]
      rfl
    refine ⟨hentries, hcount, hbelow, hkeys ▸ m.nodup, ?_⟩
    intro entry hentry other hother hfile hpre
    by_contra hne
    -- the walk from `other` finds the file
    refine hleaf (any_eq_true.mpr ⟨other.target root, ?_, ?_⟩)
    · rw [hkeys]
      exact mem_map_of_mem hother
    · refine any_eq_true.mpr
        ⟨_, File.mem_parentFiles (hbelow entry hentry) hpre hne, ?_⟩
      have hmem : (entry.target root, entry) ∈ m.entries := by
        rw [hentries]
        exact mem_map_of_mem hentry
      rw [lookup_of_mem hmem, Option.any_some, hfile]
      rfl

end validation

section disk
variable {α β : Type}

/-- A property of the files of a disk. -/
abbrev On (P : Files → Prop) : Disk → Prop := fun d => P d.files

variable {P : Files → Prop} {Q : α → Disk → Prop} {E : Disk → Prop} {t : Files} {p : Path}

/-- It is enough to start from each tree by itself. -/
theorem meets_of_tree {op : Disk.Op α} (h : ∀ t, P t → Prog.Meets (On (· = t)) op Q E) :
    Prog.Meets (On P) op Q E :=
  fun d hd => h d.files hd d rfl

theorem fault_meets : Prog.Meets (On P) Disk.fault (fun _ => On P) E :=
  meets_atomic fun _ hd => hd

theorem attempt_meets : Prog.Meets (On P) Disk.attempt (fun _ => On P) (On P) := by
  refine fault_meets.bind fun fault => ?_
  split
  · exact meets_fail fun _ hd => hd
  · exact meets_pure fun _ hd => hd

theorem exist_meets :
    Prog.Meets (On (· = t)) (Disk.exist p) (fun b d => d.files = t ∧ t.exist p = b) E := by
  refine meets_read ?_
  rintro d rfl
  exact ⟨rfl, rfl⟩

theorem isDirectory_meets :
    Prog.Meets (On (· = t)) (Disk.isDirectory p)
      (fun b d => d.files = t ∧ t.isDirectory p = b) E := by
  refine meets_read ?_
  rintro d rfl
  exact ⟨rfl, rfl⟩

theorem listFiles_meets :
    Prog.Meets (On (· = t)) (Disk.listFiles p)
      (fun l d => d.files = t ∧ (l = none ∨ l = some (t.listFiles p))) E := by
  refine fault_meets.bind fun fault => ?_
  split
  · exact meets_pure fun d hd => ⟨hd, .inl rfl⟩
  · refine meets_read ?_
    rintro d rfl
    exact ⟨rfl, .inr rfl⟩

theorem mkdirs_meets :
    Prog.Meets (On (· = t)) (Disk.mkdirs p)
      (fun made d => ∃ limit, t.mkdirs limit p = (made, d.files)) E := by
  refine fault_meets.bind fun limit => meets_atomic ?_
  rintro d rfl
  exact ⟨limit, rfl⟩

theorem createFile_meets :
    Prog.Meets (On (· = t)) (Disk.createFile p) (fun _ d => t.create p = some d.files)
      (On (· = t)) := by
  refine fault_meets.bind fun fault => ?_
  split
  · exact meets_fail fun _ hd => hd
  · have hread : Prog.Meets (On (· = t)) (.read fun d => d.files.create p : Disk.Op _)
        (fun r d => d.files = t ∧ r = t.create p) (On (· = t)) := by
      refine meets_read ?_
      rintro d rfl
      exact ⟨rfl, rfl⟩
    refine hread.bind fun r => ?_
    cases r with
    | none => exact meets_fail fun _ hd => hd.1
    | some files => exact meets_atomic fun _ hd => hd.2.symm

theorem writeFile_meets {bytes : List UInt8} :
    Prog.Meets (On (· = t)) (Disk.writeFile p bytes) (fun _ d => d.files = t.append p bytes)
      (fun d => ∃ n, d.files = t.append p (bytes.take n)) := by
  refine fault_meets.bind fun fault => ?_
  cases fault with
  | none =>
    refine meets_atomic ?_
    rintro d rfl
    rfl
  | some n =>
    have hwrite : Prog.Meets (On (· = t))
        (.write fun d => { d with files := d.files.append p (bytes.take n) } : Disk.Op Unit)
        (fun _ d => d.files = t.append p (bytes.take n))
        (fun d => ∃ n, d.files = t.append p (bytes.take n)) := by
      refine meets_atomic ?_
      rintro d rfl
      rfl
    exact hwrite.bind fun _ => meets_fail fun _ hd => ⟨n, hd⟩

/-- A directory is there in the end, and only directories on the way to it are new. -/
theorem ensureDirectory_meets :
    Prog.Meets (On (· = t)) (ensureDirectory p message)
      (fun _ => On fun t' => t.AddsDirs p t' ∧ t'.node p = some .dir) (On (t.AddsDirs p)) := by
  refine isDirectory_meets.bind fun isDir => ?_
  cases isDir with
  | true =>
    refine meets_pure ?_
    rintro d ⟨rfl, hdir⟩
    exact ⟨.refl, of_decide_eq_true hdir⟩
  | false =>
    refine (mkdirs_meets.imp (fun _ hd => hd.1) (fun _ _ hd => hd) fun _ hd => hd).bind
      fun made => ?_
    cases made with
    | true =>
      refine meets_pure ?_
      rintro d ⟨limit, hmade⟩
      have hadds := FileTree.mkdirs_addsDirs (t := t) (p := p) limit
      have hnode := FileTree.mkdirs_node (p := p) limit (by rw [hmade])
      rw [hmade] at hadds hnode
      exact ⟨hadds, hnode⟩
    | false =>
      refine meets_fail ?_
      rintro d ⟨limit, hmade⟩
      have hadds := FileTree.mkdirs_addsDirs (t := t) (p := p) limit
      rwa [hmade] at hadds

end disk
end ZipUtil
end ZeroVpn
