import Mathlib.Data.List.Infix
import Mathlib.Data.List.Nodup
import Mathlib.Tactic.Common

/-!
# Volumes

A volume holds files and directories under paths, which are lists of names. Names are compared by a
key, so different names may count as one. Writing a list of items creates what stands above each,
and a file only where nothing stands yet. Items that are spelled one way and are not above each
other are all written, and nothing else is.
-/

namespace LatentDeck.Volume

inductive Node (β : Type) where
  | file (content : β)
  | directory

/-- The entries of a volume, with their paths as they were created. -/
abbrev Entries (ν β : Type) : Type := List (List ν × Node β)

/-- Something to write: a file with its content, or a directory. -/
structure Item (ν β : Type) where
  path : List ν
  content : Option β

section Paths

variable {ν : Type}

/-- The paths of the directories above a path, without the root. -/
def above (path : List ν) : List (List ν) :=
  path.inits.filter fun start => !start.isEmpty && decide (start.length < path.length)

theorem mem_above {path start : List ν} :
    start ∈ above path ↔ start <+: path ∧ start ≠ [] ∧ start.length < path.length := by
  unfold above
  rw [List.mem_filter, List.mem_inits]
  simp

theorem mem_above_concat {path start : List ν} {name : ν} :
    start ∈ above (path ++ [name]) ↔ start ≠ [] ∧ start <+: path := by
  rw [mem_above, List.length_append, List.length_singleton]
  constructor
  · rintro ⟨isPrefix, nonempty, shorter⟩
    exact ⟨nonempty, List.prefix_of_prefix_length_le isPrefix (List.prefix_append path [name])
      (by omega)⟩
  · rintro ⟨nonempty, isPrefix⟩
    have short := isPrefix.length_le
    exact ⟨isPrefix.trans (List.prefix_append path [name]), nonempty, by omega⟩

end Paths

section Writing

variable {ν κ β : Type} [DecidableEq κ] (key : ν → κ)

def find (entries : Entries ν β) (path : List ν) : Option (Node β) :=
  (entries.find? fun entry => decide (entry.1.map key = path.map key)).map Prod.snd

def isDirectory (entries : Entries ν β) (path : List ν) : Bool :=
  match find key entries path with
  | some .directory => true
  | _ => false

/-- Creates an entry where nothing stands yet, below directories. -/
def create (entries : Entries ν β) (path : List ν) (node : Node β) : Option (Entries ν β) :=
  if (find key entries path).isNone && (above path).all (isDirectory key entries) then
    some (entries ++ [(path, node)])
  else none

/-- Creates the directories that are missing from a base along further names. -/
def createAllFrom (entries : Entries ν β) (base : List ν) : List ν → Option (Entries ν β)
  | [] => some entries
  | name :: names =>
      match find key entries (base ++ [name]) with
      | some .directory => createAllFrom entries (base ++ [name]) names
      | some (.file _) => none
      | none =>
          (create key entries (base ++ [name]) .directory).bind fun next =>
            createAllFrom next (base ++ [name]) names

/-- Creates the missing directories of a path. -/
def createAll (entries : Entries ν β) (path : List ν) : Option (Entries ν β) :=
  createAllFrom key entries [] path

def write (entries : Entries ν β) (item : Item ν β) : Option (Entries ν β) :=
  match item.content with
  | none => createAll key entries item.path
  | some content =>
      (createAll key entries item.path.dropLast).bind fun housed =>
        create key housed item.path (.file content)

def writeAll (entries : Entries ν β) : List (Item ν β) → Option (Entries ν β)
  | [] => some entries
  | item :: items => (write key entries item).bind fun next => writeAll next items

variable {key} (within : List ν → Prop)

def Spelled (key : ν → κ) (within : List ν → Prop) : Prop :=
  ∀ first second, within first → within second → first.map key = second.map key → first = second

/-- Every entry stands at a path of a set, and no two at the same path. -/
structure Tidy (entries : Entries ν β) : Prop where
  paths : ∀ entry ∈ entries, within entry.1
  distinct : (entries.map Prod.fst).Nodup

variable {within} {path : List ν} {entries : Entries ν β}

section

variable (spelled : Spelled key within)

include spelled

section

variable (tidy : Tidy within entries)

include tidy

/-- On such a volume a path leads to the entry that was created at it. -/
theorem find_eq_some (inside : within path) (node : Node β) :
    find key entries path = some node ↔ (path, node) ∈ entries := by
  have seen : ∀ entry ∈ entries, entry.1.map key = path.map key → entry.1 = path := by
    intro entry among same
    exact spelled _ _ (tidy.paths entry among) inside same
  unfold find
  rw [Option.map_eq_some_iff]
  constructor
  · rintro ⟨entry, found, rfl⟩
    have among := List.mem_of_find?_eq_some found
    have matched := List.find?_some found
    have here := seen entry among (by simpa using matched)
    rw [← here]
    exact among
  · intro among
    cases found : entries.find? fun entry => decide (entry.1.map key = path.map key) with
    | none =>
      have absent := List.find?_eq_none.mp found (path, node) among
      exact absurd (decide_eq_true rfl) absent
    | some entry =>
      have other := List.mem_of_find?_eq_some found
      have matched := List.find?_some found
      have here := seen entry other (by simpa using matched)
      have same := List.inj_on_of_nodup_map tidy.distinct other among here
      exact ⟨entry, rfl, by rw [same]⟩

/-- On such a volume nothing is found where nothing was created. -/
theorem find_eq_none (inside : within path) :
    find key entries path = none ↔ path ∉ entries.map Prod.fst := by
  constructor
  · intro missing present
    obtain ⟨entry, among, here⟩ := List.mem_map.mp present
    have found := (find_eq_some spelled tidy inside entry.2).mpr (by rw [← here]; exact among)
    exact nomatch missing.symm.trans found
  · intro absent
    cases found : find key entries path with
    | none => rfl
    | some node =>
      have among := (find_eq_some spelled tidy inside node).mp found
      exact absurd (List.mem_map_of_mem among) absent

theorem isDirectory_iff (inside : within path) :
    isDirectory key entries path = true ↔ (path, .directory) ∈ entries := by
  rw [← find_eq_some spelled tidy inside]
  unfold isDirectory
  cases find key entries path with
  | none => simp
  | some node => cases node <;> simp

/-- An entry can be created at a new path of the set below directories. -/
theorem create_spec (inside : within path) (node : Node β) (fresh : path ∉ entries.map Prod.fst)
    (housed : ∀ start ∈ above path, within start ∧ (start, .directory) ∈ entries) :
    create key entries path node = some (entries ++ [(path, node)]) ∧
      Tidy within (entries ++ [(path, node)]) := by
  have free : (find key entries path).isNone = true := by
    rw [(find_eq_none spelled tidy inside).mpr fresh]
    rfl
  have directories : (above path).all (isDirectory key entries) = true := by
    apply List.all_eq_true.mpr
    intro start upward
    exact (isDirectory_iff spelled tidy (housed start upward).1).mpr (housed start upward).2
  unfold create
  rw [free, directories]
  refine ⟨rfl, ?_, ?_⟩
  · intro entry among
    rcases List.mem_append.mp among with old | new
    · exact tidy.paths entry old
    · rw [List.mem_singleton.mp new]
      exact inside
  · rw [List.map_append, List.map_singleton]
    exact List.Nodup.append tidy.distinct (List.nodup_singleton path)
      (List.disjoint_singleton.mpr fresh)

/-- Missing directories are created along names of the set, and nothing else changes. -/
theorem createAllFrom_spec (base names : List ν)
    (inside : ∀ start, start ≠ [] → start <+: base ++ names → within start)
    (housed : ∀ start, start ≠ [] → start <+: base → (start, .directory) ∈ entries)
    (unused : ∀ start content, start <+: base ++ names → (start, .file content) ∉ entries) :
    ∃ next, createAllFrom key entries base names = some next ∧ Tidy within next ∧
      ∀ path node, (path, node) ∈ next ↔ (path, node) ∈ entries ∨
        (node = .directory ∧ path ≠ [] ∧ path <+: base ++ names) := by
  induction names generalizing entries base with
  | nil =>
    refine ⟨entries, rfl, tidy, ?_⟩
    intro path node
    rw [List.append_nil]
    constructor
    · exact Or.inl
    · rintro (old | ⟨rfl, nonempty, isPrefix⟩)
      · exact old
      · exact housed path nonempty isPrefix
  | cons name names ih =>
    have longer : base ++ name :: names = (base ++ [name]) ++ names := by simp
    have step : (base ++ [name]) <+: base ++ name :: names := by
      rw [longer]
      exact List.prefix_append _ _
    have named : base ++ [name] ≠ [] := by simp
    have here : within (base ++ [name]) := inside _ named step
    rw [longer] at inside unused
    rw [longer]
    unfold createAllFrom
    -- the prefixes of the longer base are those of the base and the base itself
    have prefixes : ∀ start, start ≠ [] → start <+: base ++ [name] →
        start <+: base ∨ start = base ++ [name] := by
      intro start nonempty isPrefix
      by_cases whole : start.length < (base ++ [name]).length
      · exact Or.inl (mem_above_concat.mp (mem_above.mpr ⟨isPrefix, nonempty, whole⟩)).2
      · have short := isPrefix.length_le
        exact Or.inr (isPrefix.eq_of_length (by omega))
    cases found : find key entries (base ++ [name]) with
    | some node =>
      have present := (find_eq_some spelled tidy here node).mp found
      cases node with
      | file content =>
        exact absurd present (unused _ content (List.prefix_append _ _))
      | directory =>
        apply ih tidy (base ++ [name]) inside _ unused
        intro start nonempty isPrefix
        rcases prefixes start nonempty isPrefix with shorter | whole
        · exact housed start nonempty shorter
        · rw [whole]
          exact present
    | none =>
      have fresh := (find_eq_none spelled tidy here).mp found
      have upward : ∀ start ∈ above (base ++ [name]),
          within start ∧ (start, .directory) ∈ entries := by
        intro start higher
        obtain ⟨nonempty, isPrefix⟩ := mem_above_concat.mp higher
        exact ⟨inside start nonempty (isPrefix.trans ((List.prefix_append base [name]).trans
          (List.prefix_append _ _))), housed start nonempty isPrefix⟩
      obtain ⟨created, tidied⟩ :=
        create_spec spelled tidy here Node.directory fresh upward
      dsimp only
      rw [created, Option.bind_some]
      have extended : ∀ path node, (path, node) ∈ entries ++ [(base ++ [name], Node.directory)] ↔
          (path, node) ∈ entries ∨ (path = base ++ [name] ∧ node = .directory) := by
        intro path node
        rw [List.mem_append, List.mem_singleton, Prod.mk.injEq]
      obtain ⟨next, made, nextTidy, members⟩ := ih tidied (base ++ [name]) inside
        (by
          intro start nonempty isPrefix
          rw [extended]
          rcases prefixes start nonempty isPrefix with shorter | whole
          · exact Or.inl (housed start nonempty shorter)
          · exact Or.inr ⟨whole, rfl⟩)
        (by
          intro start content isPrefix present
          rw [extended] at present
          rcases present with old | ⟨-, impossible⟩
          · exact unused start content isPrefix old
          · exact nomatch impossible)
      refine ⟨next, made, nextTidy, ?_⟩
      intro path node
      rw [members, extended]
      constructor
      · rintro ((old | ⟨rfl, rfl⟩) | new)
        · exact Or.inl old
        · exact Or.inr ⟨rfl, named, List.prefix_append _ _⟩
        · exact Or.inr new
      · rintro (old | new)
        · exact Or.inl (Or.inl old)
        · exact Or.inr new

end

end

/-- A path leads to an item or to what stands above one. -/
def Along (items : List (Item ν β)) (path : List ν) : Prop :=
  path ≠ [] ∧ ∃ item ∈ items, path <+: item.path

variable (key) in
/-- Items that can be written beside each other. -/
structure Layout (items : List (Item ν β)) : Prop where
  nonempty : ∀ item ∈ items, item.path ≠ []
  spelled : Spelled key (Along items)
  distinct : (items.map Item.path).Nodup
  leaves : ∀ file ∈ items, ∀ content, file.content = some content →
    ∀ item ∈ items, file.path ∉ above item.path

/-- A path of a directory that some items need. -/
def Houses (items : List (Item ν β)) (path : List ν) : Prop :=
  ∃ item ∈ items, path ∈ above item.path ∨ (path = item.path ∧ item.content = none)

/-- A volume holds the files of some items, the directories that they need and nothing else. -/
structure Holds (items : List (Item ν β)) (entries : Entries ν β) : Prop where
  distinct : (entries.map Prod.fst).Nodup
  files : ∀ path content, (path, .file content) ∈ entries ↔
    ∃ item ∈ items, item.path = path ∧ item.content = some content
  directories : ∀ path, (path, .directory) ∈ entries ↔ Houses items path

variable {items all : List (Item ν β)}

omit [DecidableEq κ] in
/-- Every path of such a volume leads to an item or above one. -/
theorem Holds.tidy (holds : Holds items entries) (layout : Layout key all) (part : items ⊆ all) :
    Tidy (Along all) entries := by
  refine ⟨?_, holds.distinct⟩
  rintro ⟨path, node⟩ among
  cases node with
  | file content =>
    obtain ⟨item, inside, rfl, -⟩ := (holds.files path content).mp among
    exact ⟨layout.nonempty item (part inside), item, part inside, List.prefix_rfl⟩
  | directory =>
    obtain ⟨item, inside, upward | ⟨rfl, -⟩⟩ := (holds.directories path).mp among
    · obtain ⟨isPrefix, nonempty, -⟩ := mem_above.mp upward
      exact ⟨nonempty, item, part inside, isPrefix⟩
    · exact ⟨layout.nonempty item (part inside), item, part inside, List.prefix_rfl⟩

omit [DecidableEq κ] in
/-- No file stands where an item needs a directory. -/
theorem Holds.no_file (holds : Holds items entries)
    (layout : Layout key all) (part : items ⊆ all) {item : Item ν β} (inside : item ∈ all)
    (upward : path ∈ above item.path) (content : β) : (path, .file content) ∉ entries := by
  intro present
  obtain ⟨file, among, rfl, written⟩ := (holds.files path content).mp present
  exact layout.leaves file (part among) content written item inside upward

theorem exists_mem_concat {α : Type} {items : List α} {item : α} {property : α → Prop} :
    (∃ other ∈ items ++ [item], property other) ↔
      (∃ other ∈ items, property other) ∨ property item := by
  simp [List.mem_append, or_and_right, exists_or]

/-- Writing one more item of a layout adds it and the directories that it needs. -/
theorem write_spec (layout : Layout key all) (part : items ⊆ all)
    (holds : Holds items entries) {item : Item ν β} (inside : item ∈ all)
    (fresh : item.path ∉ items.map Item.path) :
    ∃ next, write key entries item = some next ∧ Holds (items ++ [item]) next := by
  have tidy := holds.tidy layout part
  have along : ∀ start, start ≠ [] → start <+: item.path → Along all start :=
    fun start nonempty isPrefix => ⟨nonempty, item, inside, isPrefix⟩
  have unwritten : ∀ content, (item.path, .file content) ∉ entries := by
    intro content present
    obtain ⟨other, among, same, -⟩ := (holds.files _ content).mp present
    exact fresh (same ▸ List.mem_map_of_mem among)
  have unused : ∀ start content, start <+: item.path → (start, .file content) ∉ entries := by
    intro start content isPrefix present
    have nonempty := (tidy.paths _ present).1
    by_cases whole : start.length < item.path.length
    · exact holds.no_file layout part inside (mem_above.mpr ⟨isPrefix, nonempty, whole⟩) content
        present
    · have short := isPrefix.length_le
      rw [isPrefix.eq_of_length (by omega)] at present
      exact unwritten content present
  have rootless : ∀ start : List ν, start ≠ [] → start <+: [] → (start, .directory) ∈ entries :=
    fun start nonempty isPrefix => absurd (List.prefix_nil.mp isPrefix) nonempty
  unfold write
  cases written : item.content with
  | none =>
    obtain ⟨next, made, nextTidy, members⟩ :=
      createAllFrom_spec layout.spelled tidy [] item.path along rootless unused
    refine ⟨next, made, nextTidy.distinct, ?_, ?_⟩
    · intro path content
      rw [members, holds.files, exists_mem_concat, written]
      simp
    · intro path
      rw [members, holds.directories, List.nil_append]
      unfold Houses
      rw [exists_mem_concat, mem_above, written]
      constructor
      · rintro (old | ⟨-, nonempty, isPrefix⟩)
        · exact Or.inl old
        · by_cases whole : path.length < item.path.length
          · exact Or.inr (Or.inl ⟨isPrefix, nonempty, whole⟩)
          · have short := isPrefix.length_le
            exact Or.inr (Or.inr ⟨isPrefix.eq_of_length (by omega), rfl⟩)
      · rintro (old | ⟨isPrefix, nonempty, -⟩ | ⟨rfl, -⟩)
        · exact Or.inl old
        · exact Or.inr ⟨rfl, nonempty, isPrefix⟩
        · exact Or.inr ⟨rfl, layout.nonempty item inside, List.prefix_rfl⟩
  | some content =>
    have nonempty := layout.nonempty item inside
    have upward : ∀ start, start ∈ above item.path ↔
        start ≠ [] ∧ start <+: item.path.dropLast := by
      intro start
      rw [← List.dropLast_append_getLast nonempty, mem_above_concat, List.dropLast_concat]
    have start_prefix : item.path.dropLast <+: item.path := List.dropLast_prefix item.path
    obtain ⟨housed, made, housedTidy, members⟩ :=
      createAllFrom_spec layout.spelled tidy [] item.path.dropLast
        (fun start named isPrefix => along start named (isPrefix.trans start_prefix)) rootless
        fun start content isPrefix => unused start content (isPrefix.trans start_prefix)
    have free : item.path ∉ housed.map Prod.fst := by
      intro present
      obtain ⟨⟨path, node⟩, among, here⟩ := List.mem_map.mp present
      dsimp only at here
      rw [here] at among
      rcases (members _ _).mp among with old | ⟨-, -, isPrefix⟩
      · cases node with
        | file other => exact unwritten other old
        | directory =>
          obtain ⟨other, within, higher | ⟨same, -⟩⟩ := (holds.directories _).mp old
          · exact layout.leaves item inside content written other (part within) higher
          · exact fresh (same ▸ List.mem_map_of_mem within)
      · have short := isPrefix.length_le
        rw [List.nil_append, List.length_dropLast] at short
        have long := List.length_pos_of_ne_nil nonempty
        omega
    have below : ∀ start ∈ above item.path, Along all start ∧ (start, .directory) ∈ housed := by
      intro start higher
      obtain ⟨named, isPrefix⟩ := (upward start).mp higher
      exact ⟨along start named (isPrefix.trans start_prefix),
        (members _ _).mpr (Or.inr ⟨rfl, named, isPrefix⟩)⟩
    obtain ⟨created, tidied⟩ := create_spec layout.spelled housedTidy
      (along item.path nonempty List.prefix_rfl) (.file content) free below
    have opened : createAll key entries item.path.dropLast = some housed := made
    dsimp only
    rw [opened, Option.bind_some]
    refine ⟨_, created, tidied.distinct, ?_, ?_⟩
    · intro path other
      rw [List.mem_append, members, holds.files, exists_mem_concat, written]
      simp [eq_comm]
    · intro path
      rw [List.mem_append, members, holds.directories, List.nil_append]
      unfold Houses
      rw [exists_mem_concat, upward, written]
      simp

/-- The items of a layout are all written, and nothing else is. -/
theorem writeAll_from {done rest : List (Item ν β)} (layout : Layout key (done ++ rest))
    (holds : Holds done entries) :
    ∃ next, writeAll key entries rest = some next ∧ Holds (done ++ rest) next := by
  induction rest generalizing done entries with
  | nil =>
    rw [List.append_nil]
    exact ⟨entries, rfl, holds⟩
  | cons item rest ih =>
    have distinct := layout.distinct
    rw [List.map_append, List.map_cons] at distinct
    have fresh : item.path ∉ done.map Item.path := by
      intro among
      exact (List.nodup_append.mp distinct).2.2 _ among _ List.mem_cons_self rfl
    obtain ⟨next, written, held⟩ := write_spec layout (List.subset_append_left done _) holds
      (List.mem_append_right done List.mem_cons_self) fresh
    have whole : done ++ item :: rest = (done ++ [item]) ++ rest := by simp
    rw [whole] at layout ⊢
    obtain ⟨last, made, lastHolds⟩ := ih layout held
    exact ⟨last, by rw [writeAll, written, Option.bind_some, made], lastHolds⟩

theorem writeAll_spec (layout : Layout key items) :
    ∃ entries, writeAll key [] items = some entries ∧ Holds items entries := by
  have nothing : Holds ([] : List (Item ν β)) [] := by
    refine ⟨List.nodup_nil, ?_, ?_⟩
    · intro path content
      simp
    · intro path
      simp [Houses]
  have whole : Layout key ([] ++ items) := layout
  exact writeAll_from whole nothing

omit [DecidableEq κ] in
theorem Layout.part {part : List (Item ν β)} (layout : Layout key items)
    (sublist : part.Sublist items) : Layout key part := by
  have within := sublist.subset
  exact {
    nonempty := fun item among => layout.nonempty item (within among)
    spelled := by
      rintro first second ⟨firstNamed, one, oneAmong, onePrefix⟩
        ⟨secondNamed, other, otherAmong, otherPrefix⟩ same
      exact layout.spelled first second ⟨firstNamed, one, within oneAmong, onePrefix⟩
        ⟨secondNamed, other, within otherAmong, otherPrefix⟩ same
    distinct := layout.distinct.sublist (sublist.map Item.path)
    leaves := fun file fileAmong content written item among =>
      layout.leaves file (within fileAmong) content written item (within among) }

omit [DecidableEq κ] in
/-- No two entries of a volume with a layout have one key. -/
theorem Holds.distinct_keys (holds : Holds items entries) (layout : Layout key items) :
    (entries.map fun entry => entry.1.map key).Nodup := by
  have tidy := holds.tidy layout (List.Subset.refl items)
  have paths : ((entries.map Prod.fst).map (List.map key)).Nodup := by
    apply List.Nodup.map_on _ holds.distinct
    intro first firstAmong second secondAmong same
    obtain ⟨one, oneAmong, rfl⟩ := List.mem_map.mp firstAmong
    obtain ⟨other, otherAmong, rfl⟩ := List.mem_map.mp secondAmong
    exact layout.spelled _ _ (tidy.paths one oneAmong) (tidy.paths other otherAmong) same
  rw [List.map_map] at paths
  exact paths

end Writing

end LatentDeck.Volume
