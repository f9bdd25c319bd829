import FieldDelta.Proofs.Generation.ItemNames
import FieldDelta.Proofs.Generation.InputOrder
import FieldDelta.Proofs.Layout
import FieldDelta.Proofs.Quoting

/-! # Manifests and the units they include

Modules get their manifests from candidates, and manifests get their files from the nodes that
assembly has left.  The two fit together: every node stands in a module with a manifest, and its
unit is included there and nowhere else.

A manifest says what it includes.  Its text is written from a list of files, one on a line, and
the list can be read off again (`Manifest.Lists.unique`).

* `Manifest.Lists`, `Manifest.Includes` — what a manifest includes;
* `Compilation.IsArranged` — how the units of a generation fit together;
* `Compilation.generate_isArranged` — they do.
-/

namespace FieldDelta

/-! ## Pages of lines -/

namespace Layout

/-- Lines at the outermost depth are written behind one another. -/
theorem run_lines {texts : List String} (h_texts : ∀ text ∈ texts, text ≠ "") {page : Page}
    (h_depth : page.depth = 0) :
    (page.run (texts.map .line)).text.toList =
      page.text.toList ++ texts.flatMap fun text => text.toList ++ ['\n'] := by
  induction texts generalizing page with
  | nil => simp [Page.run]
  | cons first rest ih =>
    obtain ⟨h_first, h_rest⟩ := List.forall_mem_cons.mp h_texts
    have h_line : page.line first = { page with text := page.text ++ (first ++ "\n") } := by
      simp [Page.line, h_first, h_depth, margin]
    have h_run : page.run ((first :: rest).map .line) = (page.line first).run (rest.map .line) :=
      rfl
    have h_depth' : (page.line first).depth = 0 := by rw [h_line, h_depth]
    rw [h_run, ih h_rest h_depth', h_line]
    simp

theorem length_dropBlankLines_le (cs : List Char) : (dropBlankLines cs).length ≤ cs.length := by
  fun_induction dropBlankLines cs with
  | case1 rest ih => exact ih.trans (Nat.le_succ _)
  | case2 => exact Nat.le_refl _

/-- Finishing a page adds one line feed at most. -/
theorem length_finish_le (page : Page) :
    page.finish.toList.length ≤ page.text.toList.length + 1 := by
  have h_length := length_dropBlankLines_le page.text.toList.reverse
  rw [List.length_reverse] at h_length
  unfold Page.finish
  split
  next rest h_rest =>
    rw [h_rest, List.length_cons] at h_length
    rw [String.toList_ofList, List.length_reverse, List.length_cons]
    exact Nat.le_succ_of_le h_length
  next =>
    rw [String.toList_ofList, List.length_reverse, List.length_cons]
    exact Nat.succ_le_succ h_length

/-- A page that ends with one line is finished. -/
theorem finish_eq {page : Page} {front : List Char} {text : String} (h_text : text ≠ "")
    (h_line : '\n' ∉ text.toList)
    (h_page : page.text.toList = front ++ (text.toList ++ ['\n'])) : page.finish = page.text := by
  obtain ⟨c, cs, h_reverse⟩ : ∃ c cs, text.toList.reverse = c :: cs :=
    List.exists_cons_of_ne_nil (by simpa using h_text)
  have h_c : c ≠ '\n' := by
    rintro rfl
    exact h_line (List.mem_reverse.mp (h_reverse ▸ List.mem_cons_self))
  have h_ends : page.text.toList.reverse = '\n' :: c :: (cs ++ front.reverse) := by
    simp [h_page, h_reverse]
  have h_kept : dropBlankLines ('\n' :: c :: (cs ++ front.reverse)) =
      '\n' :: c :: (cs ++ front.reverse) := by
    unfold dropBlankLines
    split
    next h_eq => exact absurd (List.cons.inj (List.cons.inj h_eq).2).1 h_c
    next => rfl
  rw [Page.finish, h_ends, h_kept]
  change String.ofList ('\n' :: c :: (cs ++ front.reverse)).reverse = page.text
  rw [← h_ends, List.reverse_reverse, String.ofList_toList]

/-- Lines can be read off the text that they are written to. -/
theorem lines_inj {texts others : List String} (h_texts : ∀ text ∈ texts, '\n' ∉ text.toList)
    (h_others : ∀ text ∈ others, '\n' ∉ text.toList)
    (h_eq : (texts.flatMap fun text => text.toList ++ ['\n']) =
      others.flatMap fun text => text.toList ++ ['\n']) : texts = others := by
  induction texts generalizing others with
  | nil => cases others <;> simp_all
  | cons first rest ih =>
    cases others with
    | nil => simp at h_eq
    | cons first' rest' =>
      obtain ⟨h_first, h_rest⟩ := List.forall_mem_cons.mp h_texts
      obtain ⟨h_first', h_rest'⟩ := List.forall_mem_cons.mp h_others
      simp only [List.flatMap_cons, List.append_assoc, List.cons_append, List.nil_append] at h_eq
      obtain ⟨h_text, h_behind⟩ := Text.append_cons_inj h_first h_first' h_eq
      rw [String.toList_inj.mp h_text, ih h_rest h_rest' h_behind]

end Layout

/-! ## What a manifest includes -/

namespace Options

variable {options : Options} {file other : String}

theorem includeArgument_inj (h_eq : options.includeArgument file = options.includeArgument other) :
    file = other := by
  unfold includeArgument at h_eq
  split at h_eq
  · exact (String.append_right_inj _).mp ((String.append_left_inj _).mp h_eq)
  · exact (String.append_right_inj _).mp (Text.quote_inj h_eq)

theorem newline_not_mem_includeArgument (h_file : '\n' ∉ file.toList) :
    '\n' ∉ (options.includeArgument file).toList := by
  unfold includeArgument
  split
  · simp [h_file]
  · exact Text.newline_not_mem_quote _

end Options

namespace Manifest

open Layout

/-- The unit is the manifest that includes the given files, in their order.  No file name has a
    line break. -/
structure Lists (options : Options) (manifest : OutputUnit) (files : List String) : Prop where
  eq_emit : manifest = emit manifest.subject files options
  on_one_line : ∀ file ∈ files, '\n' ∉ file.toList

/-- The manifest includes the file. -/
def Includes (options : Options) (manifest : OutputUnit) (file : String) : Prop :=
  ∃ files, Lists options manifest files ∧ file ∈ files

variable {options : Options} {modulePath : String} {manifest : OutputUnit}
  {files others : List String}

/-- The text of the line that includes a file. -/
def includeText (options : Options) (file : String) : String :=
  "include!(" ++ options.includeArgument file ++ ");"

theorem includeLine_eq (options : Options) (file : String) :
    includeLine options file = .line (includeText options file) :=
  rfl

theorem includeText_ne_empty (options : Options) (file : String) :
    includeText options file ≠ "" := by
  simp [includeText]

theorem includeText_inj {file other : String}
    (h_eq : includeText options file = includeText options other) : file = other :=
  Options.includeArgument_inj
    ((String.append_right_inj _).mp ((String.append_left_inj _).mp h_eq))

theorem newline_not_mem_includeText {file : String} (h_file : '\n' ∉ file.toList) :
    '\n' ∉ (includeText options file).toList := by
  simp [includeText, Options.newline_not_mem_includeArgument h_file]

/-- The page of a manifest in front of the files. -/
def head (modulePath : String) (options : Options) : Page :=
  Page.run {} (steps modulePath [] options)

theorem depth_head (modulePath : String) (options : Options) :
    (head modulePath options).depth = 0 := by
  simp [head, steps, Page.run, Page.step]

/-- The page of a manifest before it is finished. -/
theorem run_steps (modulePath : String) (files : List String) (options : Options) :
    (Page.run {} (steps modulePath files options)).text.toList =
      (head modulePath options).text.toList ++
        (files.map (includeText options)).flatMap fun text => text.toList ++ ['\n'] := by
  have h_line : includeLine options = .line ∘ includeText options :=
    funext (includeLine_eq options)
  have h_steps : steps modulePath files options =
      steps modulePath [] options ++ (files.map (includeText options)).map .line := by
    simp only [steps, h_line, List.map_nil, List.append_nil, List.map_map]
  rw [h_steps, Page.run, List.foldl_append, ← Page.run, ← Page.run, ← head,
    run_lines (by simp [includeText_ne_empty]) (depth_head modulePath options)]

theorem text_emit (modulePath : String) (files : List String) (options : Options) :
    (emit modulePath files options).text = (Page.run {} (steps modulePath files options)).finish :=
  rfl

/-- The text of a manifest that includes a file is the page with its files. -/
theorem toList_text_emit (h_files : files ≠ [])
    (h_lines : ∀ file ∈ files, '\n' ∉ (includeText options file).toList) :
    (emit modulePath files options).text.toList =
      (head modulePath options).text.toList ++
        (files.map (includeText options)).flatMap fun text => text.toList ++ ['\n'] := by
  have h_page := run_steps modulePath files options
  rw [text_emit, ← h_page]
  obtain rfl | ⟨front, last, rfl⟩ := List.eq_nil_or_concat files
  · exact absurd rfl h_files
  have h_last : '\n' ∉ (includeText options last).toList := h_lines last (by simp)
  rw [List.concat_eq_append, List.map_append, List.flatMap_append, ← List.append_assoc,
    List.map_singleton, List.flatMap_singleton] at h_page
  rw [List.concat_eq_append, finish_eq (includeText_ne_empty options last) h_last
    h_page]

theorem length_text_emit_nil_le (modulePath : String) (options : Options) :
    (emit modulePath [] options).text.toList.length ≤
      (head modulePath options).text.toList.length + 1 := by
  rw [text_emit, ← head]
  exact length_finish_le _

/-- A manifest without files is shorter than one with files. -/
theorem text_emit_nil_ne (h_files : files ≠ []) (h_lines : ∀ file ∈ files, '\n' ∉ file.toList) :
    (emit modulePath [] options).text ≠ (emit modulePath files options).text := by
  intro h_eq
  have h_short := length_text_emit_nil_le modulePath options
  rw [h_eq, toList_text_emit h_files fun file h_file =>
    newline_not_mem_includeText (h_lines file h_file), List.length_append] at h_short
  obtain ⟨first, rest, rfl⟩ := List.exists_cons_of_ne_nil h_files
  have h_long : 2 ≤ (includeText options first).toList.length + 1 := by
    simp [includeText]
  simp only [List.map_cons, List.flatMap_cons, List.length_append, List.length_singleton] at h_short
  omega

/-- The files of a manifest can be read off its text. -/
theorem Lists.unique (h_files : Lists options manifest files)
    (h_others : Lists options manifest others) : files = others := by
  have h_text : (emit manifest.subject files options).text =
      (emit manifest.subject others options).text :=
    congrArg OutputUnit.text (h_files.eq_emit.symm.trans h_others.eq_emit)
  by_cases h_none : files = []
  · subst h_none
    by_contra h_ne
    exact text_emit_nil_ne (Ne.symm h_ne) h_others.on_one_line h_text
  by_cases h_none' : others = []
  · subst h_none'
    exact absurd h_text.symm (text_emit_nil_ne h_none h_files.on_one_line)
  have h_lines : ∀ file ∈ files, '\n' ∉ (includeText options file).toList := fun file h_file =>
    newline_not_mem_includeText (h_files.on_one_line file h_file)
  have h_lines' : ∀ file ∈ others, '\n' ∉ (includeText options file).toList := fun file h_file =>
    newline_not_mem_includeText (h_others.on_one_line file h_file)
  rw [← String.toList_inj, toList_text_emit h_none h_lines, toList_text_emit h_none' h_lines',
    List.append_cancel_left_eq] at h_text
  have h_lines := lines_inj (List.forall_mem_map.mpr h_lines) (List.forall_mem_map.mpr h_lines') h_text
  exact List.map_injective_iff.mpr (fun _ _ => includeText_inj) h_lines

end Manifest

/-! ## How units fit together -/

namespace Compilation

variable {compilation : Compilation}

/-- The units of a generation, and what manifests include. -/
structure IsArranged (compilation : Compilation) (support deltas manifests : List OutputUnit) :
    Prop where
  support_eq : support = if compilation.options.supportScheduled then [] else [SupportUnit.emit]
  /-- One unit for each node, in identity order. -/
  deltas_eq : deltas = compilation.graph.nodes.map (DeltaUnit.emit · compilation.options)
  nodes_ordered : compilation.graph.nodes.Pairwise fun a b => a.identity.Before b.identity
  /-- One manifest for each module in which a candidate stands, in module order. -/
  manifests_ordered : manifests.Pairwise (·.subject < ·.subject)
  exists_manifest : ∀ modulePath, (∃ manifest ∈ manifests, manifest.subject = modulePath) ↔
    ∃ candidate ∈ compilation.candidates, candidate.modulePath = modulePath
  kind_eq : (∀ unit ∈ support, unit.kind = .support) ∧ (∀ unit ∈ deltas, unit.kind = .delta) ∧
    ∀ unit ∈ manifests, unit.kind = .manifest
  /-- A manifest includes some of the delta units, in the order in which they are emitted, each
      once, and nothing else. -/
  listing : ∀ manifest ∈ manifests, ∃ units : List OutputUnit, units.Sublist deltas ∧
    (units.map (·.fileName)).Nodup ∧
    Manifest.Lists compilation.options manifest (units.map (·.fileName))
  /-- The unit of a node is included by the manifest of its module and by no other. -/
  included : ∀ node ∈ compilation.graph.nodes, ∃ manifest ∈ manifests,
    manifest.subject = node.modulePath ∧ ∀ other ∈ manifests,
      Manifest.Includes compilation.options other
        (DeltaUnit.emit node compilation.options).fileName ↔ other = manifest

/-- The manifest of a module. -/
def manifestOf (compilation : Compilation) (modulePath : String) : OutputUnit :=
  Manifest.emit modulePath (manifestFiles compilation.graph modulePath) compilation.options

theorem mem_manifests {manifest : OutputUnit} :
    manifest ∈ manifests compilation.candidates compilation.graph compilation.options ↔
      ∃ modulePath ∈ compilation.modules, compilation.manifestOf modulePath = manifest :=
  List.mem_map

theorem mem_manifestFiles {modulePath file : String} :
    file ∈ manifestFiles compilation.graph modulePath ↔
      ∃ node ∈ compilation.graph.nodes, node.modulePath = modulePath ∧
        Naming.deltaUnitFileName node.generatedName = file := by
  simp only [manifestFiles_eq, List.mem_map, mem_nodesOf, and_assoc]

/-- The manifest of a module lists its files. -/
theorem lists_manifestOf (compilation : Compilation) (modulePath : String) :
    Manifest.Lists compilation.options (compilation.manifestOf modulePath)
      (manifestFiles compilation.graph modulePath) := by
  refine ⟨rfl, fun file h_file => ?_⟩
  obtain ⟨node, h_node, -, rfl⟩ := mem_manifestFiles.mp h_file
  rw [Naming.deltaUnitFileName, String.toList_append, List.mem_append]
  exact not_or.mpr ⟨IsForeign.not_mem_of_mem_nodes (by decide +kernel) h_node, by decide⟩

theorem includes_manifestOf {modulePath file : String} :
    Manifest.Includes compilation.options (compilation.manifestOf modulePath) file ↔
      file ∈ manifestFiles compilation.graph modulePath := by
  have h_lists := lists_manifestOf compilation modulePath
  constructor
  · rintro ⟨files, h_files, h_file⟩
    rwa [h_lists.unique h_files]
  · exact fun h_file => ⟨_, h_lists, h_file⟩

/-- Two nodes with one file are one node. -/
theorem eq_of_deltaUnitFileName {a b : Descriptor} (h_a : a ∈ compilation.graph.nodes)
    (h_b : b ∈ compilation.graph.nodes)
    (h_eq : Naming.deltaUnitFileName a.generatedName = Naming.deltaUnitFileName b.generatedName) :
    a = b :=
  List.inj_on_of_nodup_map Graph.nodup_generatedName_assemble h_a h_b
    (Naming.deltaUnitFileName_inj.mp h_eq)

theorem mem_manifestFiles_iff {node : Descriptor} (h_node : node ∈ compilation.graph.nodes)
    {modulePath : String} :
    Naming.deltaUnitFileName node.generatedName ∈ manifestFiles compilation.graph modulePath ↔
      node.modulePath = modulePath := by
  rw [mem_manifestFiles]
  constructor
  · rintro ⟨other, h_other, h_module, h_file⟩
    rwa [eq_of_deltaUnitFileName h_node h_other h_file.symm]
  · exact fun h_module => ⟨node, h_node, h_module, rfl⟩

/-- Every node stands in a module with a manifest. -/
theorem modulePath_mem_modules {node : Descriptor} (h_node : node ∈ compilation.graph.nodes) :
    node.modulePath ∈ compilation.modules := by
  obtain ⟨candidate, h_candidate, h_identity, -⟩ := exists_candidate_of_mem_nodes h_node
  exact mem_modules.mpr
    ⟨candidate, h_candidate, congrArg TypeIdentity.modulePath h_identity⟩

/-- The delta units that the manifest of a module includes. -/
def unitsOf (compilation : Compilation) (modulePath : String) : List OutputUnit :=
  (compilation.nodesOf modulePath).map (DeltaUnit.emit · compilation.options)

theorem fileNames_unitsOf (compilation : Compilation) (modulePath : String) :
    (compilation.unitsOf modulePath).map (·.fileName) =
      manifestFiles compilation.graph modulePath :=
  List.map_map

theorem sublist_unitsOf (compilation : Compilation) (modulePath : String) :
    (compilation.unitsOf modulePath).Sublist
      (compilation.graph.nodes.map (DeltaUnit.emit · compilation.options)) :=
  List.filter_sublist.map _

theorem nodup_manifestFiles (compilation : Compilation) (modulePath : String) :
    (manifestFiles compilation.graph modulePath).Nodup := by
  rw [manifestFiles_eq, List.Nodup, List.pairwise_map]
  exact (pairwise_generatedName_nodesOf compilation modulePath).imp fun h_ne h_eq =>
    h_ne (Naming.deltaUnitFileName_inj.mp h_eq)

theorem kind_supportUnit? (options : Options) :
    ∀ unit ∈ options.supportUnit?.toList, unit.kind = .support := by
  unfold Options.supportUnit?
  split <;> simp [SupportUnit.emit]

theorem nodes_ordered (compilation : Compilation) :
    compilation.graph.nodes.Pairwise fun a b => a.identity.Before b.identity := by
  rw [graph_eq, Graph.nodes_assemble, List.pairwise_map]
  simp only [Graph.identity_link]
  exact Graph.pairwise_kept _

/-- The manifest that includes the unit of a node is that of its module. -/
theorem includes_unit_iff {node : Descriptor} (h_node : node ∈ compilation.graph.nodes)
    {manifest : OutputUnit}
    (h_manifest : manifest ∈ manifests compilation.candidates compilation.graph compilation.options) :
    Manifest.Includes compilation.options manifest
        (DeltaUnit.emit node compilation.options).fileName ↔
      manifest = compilation.manifestOf node.modulePath := by
  obtain ⟨modulePath, -, rfl⟩ := mem_manifests.mp h_manifest
  rw [includes_manifestOf, DeltaUnit.emit, mem_manifestFiles_iff h_node]
  constructor
  · rintro rfl
    rfl
  · intro h_eq
    exact (congrArg OutputUnit.subject h_eq).symm

/-- A generation is the support unit, the units of the nodes and the manifests of the modules.
    The unit of each node is included once, by the manifest of its module. -/
theorem generate_isArranged (compilation : Compilation) :
    ∃ support deltas manifests, compilation.generate.units = support ++ deltas ++ manifests ∧
      compilation.IsArranged support deltas manifests := by
  refine ⟨_, _, _, units_generate compilation, ?_⟩
  constructor
  case support_eq =>
    unfold Options.supportUnit?
    split <;> rfl
  case deltas_eq => rfl
  case nodes_ordered => exact compilation.nodes_ordered
  case manifests_ordered => exact List.pairwise_map.mpr (Text.pairwise_sorted _)
  case exists_manifest =>
    intro modulePath
    rw [← mem_modules]
    constructor
    · rintro ⟨manifest, h_manifest, rfl⟩
      obtain ⟨modulePath, h_module, rfl⟩ := mem_manifests.mp h_manifest
      exact h_module
    · exact fun h_module => ⟨_, mem_manifests.mpr ⟨modulePath, h_module, rfl⟩, rfl⟩
  case kind_eq =>
    exact ⟨kind_supportUnit? _, List.forall_mem_map.mpr fun _ _ => rfl,
      List.forall_mem_map.mpr fun _ _ => rfl⟩
  case listing =>
    intro manifest h_manifest
    obtain ⟨modulePath, -, rfl⟩ := mem_manifests.mp h_manifest
    refine ⟨compilation.unitsOf modulePath, sublist_unitsOf compilation modulePath, ?_⟩
    rw [fileNames_unitsOf]
    exact ⟨nodup_manifestFiles compilation modulePath, lists_manifestOf compilation modulePath⟩
  case included =>
    intro node h_node
    exact ⟨compilation.manifestOf node.modulePath,
      mem_manifests.mpr ⟨_, modulePath_mem_modules h_node, rfl⟩, rfl,
      fun _ h_other => includes_unit_iff h_node h_other⟩

end Compilation
end FieldDelta
