import Propositional.Formula.TreePrint
import Propositional.Proofs.Text.Quoted

namespace Propositional

/-- The lines of a text, without the line feeds between them. -/
def linesOf (text : String) : List (List Char) :=
  text.toList.splitOn '\n'

/-- The number of spaces that a line starts with. -/
def indentation (line : List Char) : Nat :=
  (line.takeWhile (· = ' ')).length

theorem BinaryConnective.label_injective {c d : BinaryConnective} (h : c.label = d.label) :
    c = d := by
  cases c <;> cases d <;> first | rfl | contradiction

/-- A text that neither breaks a line nor adds to its indentation. -/
structure PlainText (text : String) : Prop where
  single : Text.SingleLine text.toList
  unindented : text.toList.head? ≠ some ' '

instance (text : String) : Decidable (PlainText text) :=
  decidable_of_iff (Text.SingleLine text.toList ∧ text.toList.head? ≠ some ' ')
    ⟨fun ⟨hsingle, hunindented⟩ => ⟨hsingle, hunindented⟩,
      fun ⟨hsingle, hunindented⟩ => ⟨hsingle, hunindented⟩⟩

theorem PlainText.append {text text' : String} (h : PlainText text) (h' : PlainText text') :
    PlainText (text ++ text') := by
  refine ⟨Text.singleLine_toList_append h.single h'.single, ?_⟩
  rw [String.toList_append, List.head?_append]
  rcases hhead : text.toList.head? with _ | c
  · exact h'.unindented
  · have hstart : some c ≠ some ' ' := hhead ▸ h.unindented
    exact hstart

theorem plainText_quoteString (s : String) : PlainText (Text.quoteString s) := by
  refine ⟨Text.singleLine_quoteString s, ?_⟩
  rw [Text.quoteString, String.toList_ofList]
  simp [Text.enclose]

theorem UnaryConnective.plainText_label (c : UnaryConnective) : PlainText c.label := by
  cases c
  decide

theorem BinaryConnective.plainText_label (c : BinaryConnective) : PlainText c.label := by
  cases c <;> decide

namespace TreeLine

variable {line : TreeLine}

/-- The line that is printed as this text. -/
def ofPrinted (printed : List Char) : TreeLine :=
  ⟨indentation printed / 4, String.ofList (printed.dropWhile (· = ' '))⟩

theorem toList_render (line : TreeLine) :
    line.render.toList = List.replicate (4 * line.level) ' ' ++ line.text.toList := by
  rw [render, String.toList_append, String.toList_ofList]

theorem cut_render (h : PlainText line.text) :
    line.render.toList.takeWhile (· = ' ') = List.replicate (4 * line.level) ' ' ∧
      line.render.toList.dropWhile (· = ' ') = line.text.toList := by
  have hspaces : ∀ c ∈ List.replicate (4 * line.level) ' ', decide (c = ' ') = true := by
    simp
  rw [toList_render, List.takeWhile_append_of_pos hspaces, List.dropWhile_append_of_pos hspaces]
  rcases htext : line.text.toList with _ | ⟨c, rest⟩
  · exact ⟨List.append_nil _, rfl⟩
  · have hc : c ≠ ' ' := by simpa [htext] using h.unindented
    rw [List.takeWhile_cons_of_neg (by simpa), List.dropWhile_cons_of_neg (by simpa)]
    exact ⟨List.append_nil _, rfl⟩

theorem indentation_render (h : PlainText line.text) :
    indentation line.render.toList = 4 * line.level := by
  rw [indentation, (cut_render h).1, List.length_replicate]

theorem ofPrinted_render (h : PlainText line.text) : ofPrinted line.render.toList = line := by
  have hlevel : 4 * line.level / 4 = line.level := by omega
  rw [ofPrinted, indentation_render h, hlevel, (cut_render h).2, String.ofList_toList]

theorem lineFeed_notMem_render (h : PlainText line.text) : '\n' ∉ line.render.toList := by
  rw [toList_render, List.mem_append]
  rintro (hspace | htext)
  · have heq := List.eq_of_mem_replicate hspace
    contradiction
  · have hbreak := h.single '\n' htext
    contradiction

end TreeLine

namespace Formula

variable {lead trail : String}

theorem plainText_of_mem_treeLines (hlead : PlainText lead) (htrail : PlainText trail) (level : Nat)
    (f : Formula) : ∀ line ∈ f.treeLines lead trail level, PlainText line.text := by
  induction f generalizing lead trail level with
  | atom name =>
      have hname : PlainText ("name: " ++ Text.quoteString name ++ ",") :=
        (PlainText.append (by decide) (plainText_quoteString name)).append (by decide)
      simp only [treeLines, List.forall_mem_cons]
      exact ⟨hlead.append (by decide), by decide, hname, by decide, .append (by decide) htrail,
        List.forall_mem_nil _⟩
  | unary c operand ih =>
      have hconnective : PlainText ("connective: " ++ c.label ++ ",") :=
        (PlainText.append (by decide) c.plainText_label).append (by decide)
      have hoperand := @ih "operand: " "," (by decide) (by decide) (level + 2)
      simp only [treeLines, List.forall_mem_cons, List.forall_mem_append]
      exact ⟨⟨⟨hlead.append (by decide), by decide, hconnective, List.forall_mem_nil _⟩, hoperand⟩,
        by decide, .append (by decide) htrail, List.forall_mem_nil _⟩
  | binary left c right ihLeft ihRight =>
      have hconnective : PlainText ("connective: " ++ c.label ++ ",") :=
        (PlainText.append (by decide) c.plainText_label).append (by decide)
      have hleft := @ihLeft "left: " "," (by decide) (by decide) (level + 2)
      have hright := @ihRight "right: " "," (by decide) (by decide) (level + 2)
      simp only [treeLines, List.forall_mem_cons, List.forall_mem_append]
      exact ⟨⟨⟨⟨⟨hlead.append (by decide), by decide, List.forall_mem_nil _⟩, hleft⟩,
        hconnective, List.forall_mem_nil _⟩, hright⟩,
        by decide, .append (by decide) htrail, List.forall_mem_nil _⟩

theorem plainText_of_mem_tree {f : Formula} {line : TreeLine} (h : line ∈ f.tree) :
    PlainText line.text :=
  plainText_of_mem_treeLines (by decide) (by decide) 0 f line h

theorem length_treeLines (lead trail : String) (level : Nat) (f : Formula) :
    (f.treeLines lead trail level).length = 5 * f.preorder.length := by
  induction f generalizing lead trail level with
  | atom name => rfl
  | unary c operand ih => simp [treeLines, preorder, ih]; omega
  | binary left c right ihLeft ihRight => simp [treeLines, preorder, ihLeft, ihRight]; omega

theorem level_le_of_mem_treeLines (lead trail : String) {level n : Nat} {f : Formula}
    (h : level + 2 * f.depth ≤ n) : ∀ line ∈ f.treeLines lead trail level, line.level ≤ n := by
  induction f generalizing lead trail level with
  | atom name =>
      rw [depth] at h
      simp only [treeLines, List.forall_mem_cons]
      refine ⟨?_, ?_, ?_, ?_, ?_, List.forall_mem_nil _⟩ <;> omega
  | unary c operand ih =>
      rw [depth] at h
      have hoperand := @ih "operand: " "," (level + 2) (by omega)
      simp only [treeLines, List.forall_mem_append, List.forall_mem_cons]
      refine ⟨⟨⟨?_, ?_, ?_, List.forall_mem_nil _⟩, hoperand⟩,
        ?_, ?_, List.forall_mem_nil _⟩ <;> omega
  | binary left c right ihLeft ihRight =>
      rw [depth] at h
      have hleft := @ihLeft "left: " "," (level + 2) (by omega)
      have hright := @ihRight "right: " "," (level + 2) (by omega)
      simp only [treeLines, List.forall_mem_append, List.forall_mem_cons]
      refine ⟨⟨⟨⟨⟨?_, ?_, List.forall_mem_nil _⟩, hleft⟩, ?_, List.forall_mem_nil _⟩, hright⟩,
        ?_, ?_, List.forall_mem_nil _⟩ <;> omega

theorem exists_level_treeLines (lead trail : String) (level : Nat) (f : Formula) :
    ∃ line ∈ f.treeLines lead trail level, line.level = level + 2 * f.depth := by
  induction f generalizing lead trail level with
  | atom name => simp [treeLines, depth]
  | unary c operand ih =>
      obtain ⟨line, hline, hlevel⟩ := ih "operand: " "," (level + 2)
      exact ⟨line, by simp [treeLines, hline], by rw [hlevel, depth]; omega⟩
  | binary left c right ihLeft ihRight =>
      rcases Nat.le_total left.depth right.depth with hle | hle
      · obtain ⟨line, hline, hlevel⟩ := ihRight "right: " "," (level + 2)
        exact ⟨line, by simp [treeLines, hline], by rw [hlevel, depth, Nat.max_eq_right hle]; omega⟩
      · obtain ⟨line, hline, hlevel⟩ := ihLeft "left: " "," (level + 2)
        exact ⟨line, by simp [treeLines, hline], by rw [hlevel, depth, Nat.max_eq_left hle]; omega⟩

/-- The lines of a formula are told from the lines that follow them. -/
theorem treeLines_append_inj (level : Nat) {f g : Formula} {rest rest' : List TreeLine}
    (h : f.treeLines lead trail level ++ rest = g.treeLines lead trail level ++ rest') :
    f = g ∧ rest = rest' := by
  induction f generalizing lead trail level g rest rest' with
  | atom name =>
      rcases g with name' | ⟨d, operand'⟩ | ⟨left', d, right'⟩
      · simp only [treeLines, List.cons_append, List.nil_append, List.cons.injEq, TreeLine.mk.injEq,
          String.append_left_inj, String.append_right_inj, true_and] at h
        obtain ⟨hname, hrest⟩ := h
        exact ⟨congrArg atom (Text.quoteString_injective hname), hrest⟩
      · simp [treeLines] at h
      · simp [treeLines] at h
  | unary c operand ih =>
      rcases g with name' | ⟨d, operand'⟩ | ⟨left', d, right'⟩
      · simp [treeLines] at h
      · simp only [treeLines, List.append_assoc, List.cons_append, List.nil_append, List.cons.injEq,
          true_and] at h
        obtain ⟨rfl, hrest⟩ := ih _ h
        exact ⟨rfl, (List.cons.inj (List.cons.inj hrest).2).2⟩
      · simp [treeLines] at h
  | binary left c right ihLeft ihRight =>
      rcases g with name' | ⟨d, operand'⟩ | ⟨left', d, right'⟩
      · simp [treeLines] at h
      · simp [treeLines] at h
      · simp only [treeLines, List.append_assoc, List.cons_append, List.nil_append, List.cons.injEq,
          true_and] at h
        obtain ⟨rfl, hconnective⟩ := ihLeft _ h
        simp only [List.cons.injEq, TreeLine.mk.injEq, String.append_left_inj,
          String.append_right_inj, true_and] at hconnective
        obtain ⟨hlabel, hright⟩ := hconnective
        obtain ⟨rfl, hrest⟩ := ihRight _ hright
        obtain rfl := BinaryConnective.label_injective hlabel
        exact ⟨rfl, (List.cons.inj (List.cons.inj hrest).2).2⟩

theorem linesOf_treePrint (f : Formula) :
    linesOf f.treePrint = f.tree.map fun line => line.render.toList := by
  have hne : (f.tree.map fun line => line.render.toList) ≠ [] := by
    cases f <;> simp [tree, treeLines]
  have hsplit : ∀ printed ∈ f.tree.map fun line => line.render.toList, '\n' ∉ printed := by
    intro printed hprinted
    obtain ⟨line, hline, rfl⟩ := List.mem_map.mp hprinted
    exact TreeLine.lineFeed_notMem_render (plainText_of_mem_tree hline)
  have hprint : f.treePrint.toList =
      ['\n'].intercalate (f.tree.map fun line => line.render.toList) := by
    rw [treePrint, String.toList_intercalate, List.map_map]
    rfl
  rw [linesOf, hprint, List.splitOn_intercalate _ hsplit hne]

theorem tree_eq_map_ofPrinted (f : Formula) :
    f.tree = (linesOf f.treePrint).map TreeLine.ofPrinted := by
  rw [linesOf_treePrint, List.map_map]
  refine (List.map_id' f.tree).symm.trans (List.map_congr_left ?_)
  intro line hline
  exact (TreeLine.ofPrinted_render (plainText_of_mem_tree hline)).symm

theorem map_indentation_treePrint (f : Formula) :
    (linesOf f.treePrint).map indentation = f.tree.map fun line => 4 * line.level := by
  rw [linesOf_treePrint, List.map_map]
  apply List.map_congr_left
  intro line hline
  exact TreeLine.indentation_render (plainText_of_mem_tree hline)

/-- No two formulas are printed as the same tree, whatever the names of their atoms. A tree has five
lines for each node of its formula, and its deepest line is indented by eight spaces for each node
on a longest path. -/
theorem treePrint_identifies (f : Formula) :
    (∀ g : Formula, f.treePrint = g.treePrint → f = g) ∧
      (linesOf f.treePrint).length = 5 * f.preorder.length ∧
      ((linesOf f.treePrint).map indentation).max? = some (8 * f.depth) := by
  refine ⟨?_, ?_, ?_⟩
  · intro g hprint
    have htree : f.tree ++ [] = g.tree ++ [] := by
      rw [tree_eq_map_ofPrinted f, tree_eq_map_ofPrinted g, hprint]
    exact (treeLines_append_inj 0 htree).1
  · rw [linesOf_treePrint, List.length_map]
    exact length_treeLines "" "" 0 f
  · rw [map_indentation_treePrint, List.max?_eq_some_iff]
    constructor
    · obtain ⟨line, hline, hlevel⟩ := exists_level_treeLines "" "" 0 f
      exact List.mem_map.mpr ⟨line, hline, by omega⟩
    · intro n hn
      obtain ⟨line, hline, rfl⟩ := List.mem_map.mp hn
      have hdepth : 0 + 2 * f.depth ≤ 2 * f.depth := by omega
      have hle := level_le_of_mem_treeLines "" "" hdepth line hline
      omega

end Formula

end Propositional
