import Pagewright.Proofs.Archive.Progress
import Pagewright.Proofs.Files.Below

/-! Directories in which the same stands. Wherever they are, and in whatever order their trees list what is in them, the
same is found under a name in both, and what is found below it comes in the same order. -/
namespace Pagewright

namespace FileTree
open Archive (ListedOnce)

/-- A directory in a tree that lists what is in it once. -/
structure Settled (t : FileTree) (p : Path) : Prop where
  leads : t.LeadsToDirectory p
  wellFormed : t.WellFormed
  once : ListedOnce (destination t.current p) t

/-- Two directories in which the same stands. -/
structure Alike (t t' : FileTree) (p p' : Path) : Prop where
  left : t.Settled p
  right : t'.Settled p'
  same : ∀ names, t.find? (destination t.current p ++ names) = t'.find? (destination t'.current p' ++ names)

/-- A name as it may be asked for in a directory. -/
structure Within (name : String) : Prop where
  relative : (Path.ofText name).slashes = 0
  named : (Path.ofText name).parts ≠ []
  plain : ∀ part ∈ (Path.ofText name).parts, Plain part

instance (name : String) : Decidable (Plain name) :=
  decidable_of_iff (name ≠ ".." ∧ Char.ofNat 0 ∉ name.toList ∧ Fits name)
    ⟨fun ⟨noDots,noNull,fits⟩ => ⟨noDots,noNull,fits⟩,fun ⟨noDots,noNull,fits⟩ => ⟨noDots,noNull,fits⟩⟩

instance (name : String) : Decidable (Within name) :=
  decidable_of_iff ((Path.ofText name).slashes = 0 ∧ (Path.ofText name).parts ≠ [] ∧
      ∀ part ∈ (Path.ofText name).parts, Plain part)
    ⟨fun ⟨relative,named,plain⟩ => ⟨relative,named,plain⟩,fun ⟨relative,named,plain⟩ => ⟨relative,named,plain⟩⟩

variable {name : String}

theorem Within.path (within : Within name) (p : Path) : p / name = ⟨p.slashes,p.parts ++ (Path.ofText name).parts⟩ := by
  show p.append (Path.ofText name) = _
  simp [Path.append,Path.isAbsolute,within.relative]

theorem Within.name_path (within : Within name) (p p' : Path) : (p / name).name = (p' / name).name := by
  rw [within.path,within.path,Path.name,Path.name,List.getLast?_append_of_ne_nil _ within.named,
    List.getLast?_append_of_ne_nil _ within.named]

/-- A name in a directory of a directory. -/
theorem Within.nested {outer inner whole : String} (first : Within outer) (second : Within inner) (both : Within whole)
    (parts : (Path.ofText whole).parts = (Path.ofText outer).parts ++ (Path.ofText inner).parts) (p : Path) :
    p / outer / inner = p / whole := by
  rw [first.path,second.path,both.path,parts,List.append_assoc]

section Below

variable {t t' : FileTree} {p p' : Path} (alike : Alike t t' p p')
include alike

theorem Alike.below_perm : (t.below (destination t.current p)).Perm (t'.below (destination t'.current p')) := by
  have nodup := List.Nodup.of_map _ (t.below_nodup _ alike.left.once)
  have nodup' := List.Nodup.of_map _ (t'.below_nodup _ alike.right.once)
  refine (List.perm_ext_iff_of_nodup nodup nodup').mpr fun ⟨names,entry⟩ => ?_
  rw [t.mem_below _ alike.left.once,t'.mem_below _ alike.right.once,alike.same]

/-- What is in a directory of theirs is the same as well. -/
theorem Alike.inner (names : List String) (plain : ∀ part ∈ names, Plain part)
    (standing : t.find? (destination t.current p ++ names) = some .directory) :
    Alike t t' ⟨p.slashes,p.parts ++ names⟩ ⟨p'.slashes,p'.parts ++ names⟩ := by
  have proper : ∀ part ∈ names, part ≠ ".." ∧ Char.ofNat 0 ∉ part.toList :=
    fun part member => ⟨(plain part member).noDots,(plain part member).noNull⟩
  have noDots : ".." ∉ names := fun dots => (plain _ dots).noDots rfl
  have place := Archive.destination_below t.current p names noDots
  have place' := Archive.destination_below t'.current p' names noDots
  obtain ⟨left,right,same⟩ := alike
  constructor
  · exact ⟨Archive.leads_below t p left.wellFormed left.leads names proper standing,left.wellFormed,
      place ▸ listedOnce_inside t _ names left.once⟩
  · exact ⟨Archive.leads_below t' p' right.wellFormed right.leads names proper (same names ▸ standing),right.wellFormed,
      place' ▸ listedOnce_inside t' _ names right.once⟩
  · intro more
    rw [place,place',List.append_assoc,List.append_assoc]
    exact same (names ++ more)

/-- What counts of something that is found: its name and what it is. -/
def named (found : Path × Entry) : String × Entry := (found.1.name,found.2)

theorem Alike.named_inOrder (keep : List String × Entry → Bool) :
    ((inOrder ((t.below (destination t.current p)).filter keep)).map (placed p)).map named =
      ((inOrder ((t'.below (destination t'.current p')).filter keep)).map (placed p')).map named := by
  have once := (t.below_nodup _ alike.left.once).sublist ((List.filter_sublist (p := keep)).map (·.1))
  rw [← inOrder_eq_of_perm _ _ (alike.below_perm.filter keep) once,List.map_map,List.map_map]
  refine List.map_congr_left fun e member => ?_
  have proper := t.below_names _ e (List.mem_filter.mp ((perm_inOrder _).mem_iff.mp member)).1
  simp only [Function.comp_apply,named,placed,Path.name]
  rw [List.getLast?_append_of_ne_nil _ proper,List.getLast?_append_of_ne_nil _ proper]

variable (within : Within name)
include within

theorem Alike.look : t.look (p / name) = t'.look (p' / name) := by
  rw [within.path,within.path,t.look_below alike.left.wellFormed p alike.left.leads _ within.plain,
    t'.look_below alike.right.wellFormed p' alike.right.leads _ within.plain,alike.same]

theorem Alike.isFile : t.isFile (p / name) = t'.isFile (p' / name) := by
  unfold FileTree.isFile
  rw [alike.look within]

theorem Alike.isDirectory : t.isDirectory (p / name) = t'.isDirectory (p' / name) := by
  unfold FileTree.isDirectory
  rw [alike.look within]

/-- A name is that of a file with one content in both directories, or of no file in both. -/
theorem Alike.file : t.isFile (p / name) = .ok false ∧ t'.isFile (p' / name) = .ok false ∨
    ∃ content, t.isFile (p / name) = .ok true ∧ t'.isFile (p' / name) = .ok true ∧
      t.read (p / name) = .ok content ∧ t'.read (p' / name) = .ok content := by
  have looked := t.look_below alike.left.wellFormed p alike.left.leads _ within.plain
  rw [← within.path] at looked
  have asked : t.isFile (p / name) =
      .ok ((t.find? (destination t.current p ++ (Path.ofText name).parts)).any Entry.isFile) := by
    unfold FileTree.isFile
    rw [looked]
    rfl
  have same := alike.isFile within
  have located (t : FileTree) (p : Path) (settled : t.Settled p) (content : Content)
      (standing : t.find? (destination t.current p ++ (Path.ofText name).parts) = some (.file content)) :
      t.read (p / name) = .ok content := by
    refine t.read_standing _ _ content ?_ standing
    rw [within.path]
    refine locate_standing t settled.wellFormed p settled.leads _ (fun part member => ?_) _ standing
    exact ⟨(within.plain part member).noDots,(within.plain part member).noNull⟩
  cases standing : t.find? (destination t.current p ++ (Path.ofText name).parts) with
  | none =>
    rw [standing] at asked
    exact .inl ⟨asked,same ▸ asked⟩
  | some entry =>
    rw [standing] at asked
    cases entry with
    | directory => exact .inl ⟨asked,same ▸ asked⟩
    | file content =>
      refine .inr ⟨content,asked,same ▸ asked,located t p alike.left content standing,?_⟩
      exact located t' p' alike.right content (alike.same _ ▸ standing)

/-- What is found anywhere below a name has the same names in the same order. -/
theorem Alike.descendants : (t.descendants (p / name)).map (List.map named) =
    (t'.descendants (p' / name)).map (List.map named) := by
  have place := Archive.destination_below t.current p (Path.ofText name).parts fun dots => (within.plain _ dots).noDots rfl
  rw [within.path,within.path]
  by_cases standing : t.find? (destination t.current p ++ (Path.ofText name).parts) = some .directory
  · have inner := alike.inner _ within.plain standing
    have all (l : List (List String × Entry)) : l = l.filter fun _ => true := by simp
    rw [t.descendants_below _ inner.left.leads,t'.descendants_below _ inner.right.leads]
    have same := inner.named_inOrder fun _ => true
    rw [← all,← all] at same
    exact congrArg Except.ok same
  · rw [t.descendants_nowhere alike.left.wellFormed p alike.left.leads _ within.plain standing,
      t'.descendants_nowhere alike.right.wellFormed p' alike.right.leads _ within.plain (alike.same _ ▸ standing)]

/-- What is found directly below a directory has the same names in the same order. -/
theorem Alike.children (standing : t.isDirectory (p / name) = .ok true) :
    (t.children (p / name)).map (fun found => (found.mergeSort fun a b => Path.le a.1 b.1).map named) =
      (t'.children (p' / name)).map fun found => (found.mergeSort fun a b => Path.le a.1 b.1).map named := by
  have leads := isDirectory_success t _ standing
  rw [within.path] at leads
  have place := Archive.destination_below t.current p (Path.ofText name).parts fun dots => (within.plain _ dots).noDots rfl
  have inner := alike.inner _ within.plain (place ▸ leads.2)
  rw [within.path,within.path,t.children_below _ inner.left.leads,t'.children_below _ inner.right.leads]
  refine congrArg Except.ok ?_
  dsimp only
  rw [placed_inOrder,placed_inOrder]
  exact inner.named_inOrder _

end Below

end FileTree

end Pagewright
