import SolAudit.Path
import SolAudit.Proofs.Text.Decimal

/-!
# Paths below a directory

Two paths are the same if they start alike and have the same texts between their slashes, where empty texts and dots do
not count (`same_eq`). The path of an entry of a directory is that of the directory with one component more
(`components_join`), however the directory is spelled. Paths below one directory are told apart (`same_descend_iff`) and
put in order by their names alone.
-/

namespace SolAudit.Path

/-- What an entry of a directory may be called. -/
structure IsName (name : String) : Prop where
  ne_empty : name ≠ ""
  ne_here : name ≠ "."
  ne_up : name ≠ ".."
  no_slash : '/' ∉ name.toList

instance (name : String) : Decidable (IsName name) :=
  decidable_of_iff (name ≠ "" ∧ name ≠ "." ∧ name ≠ ".." ∧ '/' ∉ name.toList)
    ⟨fun ⟨hempty, hhere, hup, hslash⟩ ↦ ⟨hempty, hhere, hup, hslash⟩, fun h ↦ ⟨h.1, h.2, h.3, h.4⟩⟩

theorem isAbsolute_eq (path : Path) : path.isAbsolute = (path.text.toList.head? == some '/') := by
  have hslash : "/".toList = ['/'] := rfl
  rw [Bool.eq_iff_iff, isAbsolute, String.startsWith_string_iff, hslash]
  cases path.text.toList with
  | nil => decide
  | cons c rest =>
    simp only [List.cons_prefix_cons, List.nil_prefix, and_true, List.head?_cons, beq_iff_eq, Option.some.injEq]
    exact eq_comm

theorem endsWith_slash_iff (text : String) : text.endsWith "/" = true ↔ ∃ front, text.toList = front ++ ['/'] := by
  have hslash : "/".toList = ['/'] := rfl
  rw [String.endsWith_eq_endsWith_toSlice, String.Slice.endsWith_string_iff, String.copy_toSlice, hslash]
  constructor
  · rintro ⟨front, h⟩
    exact ⟨front, h.symm⟩
  · rintro ⟨front, h⟩
    exact ⟨front, h.symm⟩

/-- A path and what stands in front of the slash before the name of an entry. -/
structure HasFront (path : Path) (front : List Char) : Prop where
  text : path.text.toList = front ∧ path.text.endsWith "/" = false ∨
    path.text.toList = front ++ ['/'] ∧ path.text.endsWith "/" = true
  join : ∀ name, IsName name → (path.join ⟨name⟩).text.toList = front ++ '/' :: name.toList

theorem not_isAbsolute_of_isName {name : String} (h : IsName name) : (Path.mk name).isAbsolute = false := by
  rw [isAbsolute_eq, beq_eq_false_iff_ne]
  intro hhead
  exact h.no_slash (List.mem_of_head? hhead)

theorem exists_hasFront {path : Path} (h : path.text ≠ "") : ∃ front, path.HasFront front := by
  have hempty : (path.text == "") = false := by simpa using h
  by_cases hslash : path.text.endsWith "/" = true
  · obtain ⟨front, hfront⟩ := (endsWith_slash_iff path.text).mp hslash
    refine ⟨front, .inr ⟨hfront, hslash⟩, ?_⟩
    intro name hname
    simp [join, not_isAbsolute_of_isName hname, hempty, hslash, hfront]
  · rw [Bool.not_eq_true] at hslash
    refine ⟨path.text.toList, .inl ⟨rfl, hslash⟩, ?_⟩
    intro name hname
    simp [join, not_isAbsolute_of_isName hname, hempty, hslash]

/-- The texts between the slashes in front of a name. -/
def frontParts (front : List Char) : List String := (Text.splitChars '/' front).map String.ofList

section

variable {path : Path} {front : List Char} {name : String}

theorem HasFront.parts_join (h : path.HasFront front) (hname : IsName name) :
    (path.join ⟨name⟩).parts = frontParts front ++ [name] := by
  rw [parts, h.join name hname, Text.splitChars_append, Text.splitChars_of_not_mem hname.no_slash, List.map_append]
  simp [frontParts]

theorem HasFront.parts_eq (h : path.HasFront front) : path.parts = frontParts front ∧ path.text.endsWith "/" = false ∨
    path.parts = frontParts front ++ [""] ∧ path.text.endsWith "/" = true := by
  rcases h.text with ⟨htext, hslash⟩ | ⟨htext, hslash⟩
  · refine .inl ⟨?_, hslash⟩
    rw [parts, htext, frontParts]
  · refine .inr ⟨?_, hslash⟩
    rw [parts, htext, Text.splitChars_append, List.map_append]
    rfl

theorem frontParts_ne_nil (front : List Char) : frontParts front ≠ [] := by
  rw [frontParts, Ne, List.map_eq_nil_iff]
  exact Text.splitChars_ne_nil '/' front

theorem head?_frontParts_append (front : List Char) (rest : List String) :
    (frontParts front ++ rest).head? = (frontParts front).head? := by
  cases hfront : frontParts front with
  | nil => exact absurd hfront (frontParts_ne_nil front)
  | cons part parts => rfl

theorem HasFront.isAbsolute_join (h : path.HasFront front) (htext : path.text ≠ "") (hname : IsName name) :
    (path.join ⟨name⟩).isAbsolute = path.isAbsolute := by
  have htext : path.text.toList ≠ [] := by simpa using htext
  rw [isAbsolute_eq, isAbsolute_eq, h.join name hname]
  rcases h.text with ⟨hfront, -⟩ | ⟨hfront, -⟩
  · rw [hfront] at htext ⊢
    cases front with
    | nil => exact absurd rfl htext
    | cons c rest => rfl
  · rw [hfront]
    cases front <;> rfl

theorem HasFront.endsWith_slash_join (h : path.HasFront front) (hname : IsName name) :
    (path.join ⟨name⟩).text.endsWith "/" = false := by
  rw [← Bool.not_eq_true, endsWith_slash_iff, h.join name hname]
  rintro ⟨more, hmore⟩
  rcases List.eq_nil_or_concat name.toList with hnil | ⟨init, last, hlast⟩
  · exact hname.ne_empty (by simpa using hnil)
  · rw [List.concat_eq_append] at hlast
    rw [hlast, ← List.cons_append, ← List.append_assoc] at hmore
    have hslash : last = '/' := by simpa using (List.append_inj' hmore rfl).2
    refine hname.no_slash ?_
    simp [hlast, hslash]

theorem HasFront.join_ne_empty (h : path.HasFront front) (hname : IsName name) : (path.join ⟨name⟩).text ≠ "" := by
  intro hempty
  have hjoin := h.join name hname
  rw [hempty] at hjoin
  simp at hjoin

/-- The component that a text between slashes stands for, if it is not the first. -/
def component? (part : String) : Option Component :=
  if part == "" || part == "." then none
  else if part == ".." then some .up
  else some (.name part)

theorem component?_of_isName (h : IsName name) : component? name = some (.name name) := by
  simp [component?, h.ne_empty, h.ne_here, h.ne_up]

/-- What a path starts with, apart from its names. -/
def lead (path : Path) : List Component :=
  if path.isAbsolute then [.root] else if path.parts.head? == some "." then [.here] else []

theorem components_eq (path : Path) : path.components = path.lead ++ path.parts.filterMap component? := rfl

/-- The path of an entry is that of its directory with one component more. -/
theorem components_join (path : Path) (hname : IsName name) :
    (path.join ⟨name⟩).components = path.components ++ [.name name] := by
  by_cases htext : path.text = ""
  · obtain ⟨text⟩ := path
    cases htext
    have hjoin : (Path.mk "").join ⟨name⟩ = ⟨name⟩ := by simp [join]
    have hparts : (Path.mk name).parts = [name] := by
      rw [parts, Text.splitChars_of_not_mem hname.no_slash]
      simp
    have hlead : (Path.mk name).lead = [] := by
      simp [lead, not_isAbsolute_of_isName hname, hparts, hname.ne_here]
    have hempty : (Path.mk "").components = [] := by decide
    rw [hjoin, hempty, components_eq, hlead, hparts, List.nil_append, List.nil_append, List.filterMap_cons,
      component?_of_isName hname]
    rfl
  · obtain ⟨front, h⟩ := exists_hasFront htext
    have hnames : path.parts.filterMap component? = (frontParts front).filterMap component? := by
      rcases h.parts_eq with ⟨hparts, -⟩ | ⟨hparts, -⟩
      · rw [hparts]
      · rw [hparts, List.filterMap_append]
        exact List.append_nil _
    have hhead : path.parts.head? = (frontParts front).head? := by
      rcases h.parts_eq with ⟨hparts, -⟩ | ⟨hparts, -⟩
      · rw [hparts]
      · rw [hparts, head?_frontParts_append]
    have hlead : (path.join ⟨name⟩).lead = path.lead := by
      rw [lead, lead, h.isAbsolute_join htext hname, h.parts_join hname, hhead,
        head?_frontParts_append]
    rw [components_eq, components_eq, hlead, hnames, h.parts_join hname, List.filterMap_append, List.append_assoc,
      List.filterMap_cons, component?_of_isName hname]
    rfl

end

/-- What a path is compared by: where it starts, and its texts between slashes that are neither empty nor a dot. -/
structure Key where
  atRoot : Bool
  atDot : Bool
  names : List (List Char)
  deriving DecidableEq

def key (path : Path) : Key where
  atRoot := path.text.toList.head? == some '/'
  atDot := (path.text.toList.splitOn '/').head? == some ['.']
  names := (path.text.toList.splitOn '/').filter fun part ↦ part != [] && part != ['.']

namespace Key

def componentOf (name : List Char) : Component := if name = ['.', '.'] then .up else .name (String.ofList name)

/-- The components of the paths with a key. -/
def components (key : Key) : List Component :=
  (if key.atRoot then [.root] else if key.atDot then [.here] else []) ++ key.names.map componentOf

def nameOf? : Component → Option (List Char)
  | .up => some ['.', '.']
  | .name text => some text.toList
  | _ => none

theorem nameOf?_componentOf (name : List Char) : nameOf? (componentOf name) = some name := by
  rw [componentOf]
  split
  · rename_i hup
    rw [hup]
    rfl
  · rw [nameOf?, String.toList_ofList]

theorem filterMap_nameOf?_components (key : Key) : key.components.filterMap nameOf? = key.names := by
  obtain ⟨atRoot, atDot, names⟩ := key
  have hstart : (if atRoot then [Component.root] else if atDot then [.here] else []).filterMap nameOf? = [] := by
    cases atRoot <;> cases atDot <;> rfl
  have hnames : nameOf? ∘ componentOf = some := funext nameOf?_componentOf
  rw [components, List.filterMap_append, hstart, List.nil_append, List.filterMap_map, hnames, List.filterMap_some]

/-- The components tell the key, as long as it does not start in two ways. -/
theorem eq_of_components_eq {a b : Key} (ha : a.atRoot = true → a.atDot = false)
    (hb : b.atRoot = true → b.atDot = false) (h : a.components = b.components) : a = b := by
  have hnames : a.names = b.names := by
    rw [← filterMap_nameOf?_components, h, filterMap_nameOf?_components]
  obtain ⟨aRoot, aDot, names⟩ := a
  obtain ⟨bRoot, bDot, names'⟩ := b
  cases hnames
  have hstart := List.append_cancel_right h
  cases aRoot <;> cases bRoot <;> cases aDot <;> cases bDot <;> simp_all

end Key

theorem atDot_key {path : Path} (h : path.key.atRoot = true) : path.key.atDot = false := by
  obtain ⟨rest, hrest⟩ := List.head?_eq_some_iff.mp (beq_iff_eq.mp h)
  rw [key, hrest, List.splitOn_cons_eq_if_modifyHead]
  rfl

theorem components_key (path : Path) : path.components = path.key.components := by
  have hparts : path.parts = (path.text.toList.splitOn '/').map String.ofList := by
    rw [parts, Text.splitChars_eq_splitOn]
  have hbeq (part : List Char) (text : String) : (String.ofList part == text) = (part == text.toList) := by
    rw [Bool.eq_iff_iff, beq_iff_eq, beq_iff_eq, ← String.toList_inj, String.toList_ofList]
  have hhead : (path.parts.head? == some ".") = path.key.atDot := by
    rw [hparts, List.head?_map, key]
    cases (path.text.toList.splitOn '/').head? with
    | none => rfl
    | some part => exact hbeq part "."
  have hnames : path.parts.filterMap component? = path.key.names.map Key.componentOf := by
    rw [hparts, List.filterMap_map, key, ← List.filterMap_eq_map, List.filterMap_filter]
    congr 1
    funext part
    have hempty : (String.ofList part == "") = (part == []) := hbeq part ""
    have hdot : (String.ofList part == ".") = (part == ['.']) := hbeq part "."
    have hup : (String.ofList part == "..") = (part == ['.', '.']) := hbeq part ".."
    simp only [Function.comp_apply, component?, Key.componentOf, hempty, hdot, hup]
    grind
  rw [components_eq, lead, isAbsolute_eq, hhead, hnames]
  rfl

/-- Paths are the same exactly if they have one key. -/
theorem same_eq (a b : Path) : a.same b = (a.key == b.key) := by
  rw [Bool.eq_iff_iff, same, beq_iff_eq, beq_iff_eq, components_key, components_key]
  exact ⟨Key.eq_of_components_eq atDot_key atDot_key, congrArg Key.components⟩

/-! ## Names below a path -/

/-- The path of the entry that names lead to, from directory to directory. -/
def descend (path : Path) (names : List String) : Path := names.foldl (fun path name ↦ path.join ⟨name⟩) path

@[simp] theorem descend_nil (path : Path) : path.descend [] = path := rfl

@[simp] theorem descend_cons (path : Path) (name : String) (names : List String) :
    path.descend (name :: names) = (path.join ⟨name⟩).descend names := rfl

@[simp] theorem descend_append (path : Path) (names more : List String) :
    path.descend (names ++ more) = (path.descend names).descend more :=
  List.foldl_append

theorem components_descend (path : Path) {names : List String} (h : ∀ name ∈ names, IsName name) :
    (path.descend names).components = path.components ++ names.map .name := by
  induction names generalizing path with
  | nil => simp
  | cons name names ih =>
    obtain ⟨hname, hnames⟩ := List.forall_mem_cons.mp h
    rw [descend_cons, ih (path.join ⟨name⟩) hnames, components_join path hname, List.append_assoc]
    rfl

/-- Paths below one directory are told apart by their names, however they are spelled. -/
theorem same_descend_iff (path : Path) {names more : List String} (hnames : ∀ name ∈ names, IsName name)
    (hmore : ∀ name ∈ more, IsName name) : (path.descend names).same (path.descend more) = true ↔ names = more := by
  rw [same, beq_iff_eq, components_descend path hnames, components_descend path hmore, List.append_cancel_left_eq]
  exact List.map_inj_right fun _ _ ↦ Component.name.inj

theorem fileName?_join (path : Path) {name : String} (hname : IsName name) :
    (path.join ⟨name⟩).fileName? = some name := by
  rw [fileName?, components_join path hname, List.getLast?_concat]

/-- The name of an entry tells its extension, whatever directory it is in. -/
theorem extension?_congr {a b : Path} (h : a.fileName? = b.fileName?) : a.extension? = b.extension? := by
  rw [extension?, extension?, h]

theorem fileName?_descend_concat (path : Path) (names : List String) {name : String} (hname : IsName name) :
    (path.descend (names ++ [name])).fileName? = some name := by
  rw [descend_append]
  exact fileName?_join _ hname

theorem below_descend (path : Path) {names : List String} (h : ∀ name ∈ names, IsName name) :
    (path.descend names).below path = "/".intercalate names := by
  have hleads : path.components.isPrefixOf (path.components ++ names.map .name) = true := by
    rw [List.isPrefixOf_iff_prefix]
    exact List.prefix_append _ _
  have htexts : (names.map Component.name).map Component.text = names := by simp [Component.text, Function.comp_def]
  rw [below, components_descend path h]
  simp only [hleads, if_true, List.drop_left, htexts]

theorem Component.less_irrefl (a : Component) : a.less a = false := by
  simp only [less, Nat.lt_irrefl, String.lt_irrefl, decide_false, Bool.and_false, Bool.or_false]

/-- What two paths have in front does not count in their order. -/
theorem lessComponents_append (front as bs : List Component) :
    lessComponents (front ++ as) (front ++ bs) = lessComponents as bs := by
  induction front with
  | nil => rfl
  | cons a front ih =>
    rw [List.cons_append, List.cons_append, lessComponents, Component.less_irrefl, ih]
    simp

theorem less_descend (path other : Path) {a b : List String} (ha : ∀ name ∈ a, IsName name)
    (hb : ∀ name ∈ b, IsName name) :
    (path.descend a).less (path.descend b) = (other.descend a).less (other.descend b) := by
  simp only [less, components_descend _ ha, components_descend _ hb, lessComponents_append]

end SolAudit.Path
