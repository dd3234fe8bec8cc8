import Retype.Parser

/-!
# The automaton of the parser

An *edge* of a table leads from a state over a symbol to a state.  A stack is a *path*: every frame
was reached from the state below it over its own symbol.

In a state, some symbols are known to be on top of the stack, whatever lies below them.  They are
what stands in front of the dot of the longest item of the state.  `edges_known` checks this along
every edge, and `reductions_known` checks that the right side of a production is among the known
symbols in every state that reduces it.  So a reduction always finds its right side on the stack.
-/

namespace Retype.Grammar

/-! ## Edges -/

/-- The edges that leave a state. -/
def Table.edges (table : Table) (s : State) : List (Symbol × Nat) :=
  ((table.shifts.toList[s.shifts]?).getD []).map (fun e => (.t e.1, e.2))
    ++ ((table.moves.toList[s.moves]?).getD []).map fun e => (.n e.1, e.2)

/-- The productions that a state reduces. -/
def State.reductions (s : State) : List Nat := s.reduce.toList ++ s.exceptions.map (·.2)

/-- An edge from a state. -/
def Table.Edge (table : Table) (source : Nat) (x : Symbol) (target : Nat) : Prop :=
  ∃ s, table.states[source]? = some s ∧ (x, target) ∈ table.edges s

theorem mem_of_lookup {α β : Type} [BEq α] [LawfulBEq α] {a : α} {b : β} {row : List (α × β)}
    (found : row.lookup a = some b) : (a, b) ∈ row := by
  obtain ⟨before, behind, rfl, -⟩ := List.lookup_eq_some_iff.mp found
  exact List.mem_append_right _ List.mem_cons_self

section Moves

variable {table : Table} {source target : Nat}

theorem edge_of_goto? {x : Nonterminal} (leads : table.goto? source x = some target) :
    table.Edge source (.n x) target := by
  obtain ⟨s, state, rest⟩ := Option.bind_eq_some_iff.mp leads
  obtain ⟨row, moves, found⟩ := Option.bind_eq_some_iff.mp rest
  refine ⟨s, state, List.mem_append_right _ ?_⟩
  rw [Array.getElem?_toList, moves]
  exact List.mem_map_of_mem (mem_of_lookup found)

theorem edge_of_shift {k : TokenKind} (moves : table.move source (some k) = .shift target) :
    table.Edge source (.t k) target := by
  unfold Table.move at moves
  split at moves
  next => cases moves
  next s state =>
    dsimp only at moves
    split at moves
    next t shifts =>
      obtain rfl := Move.shift.inj moves
      obtain ⟨row, found, leads⟩ := Option.bind_eq_some_iff.mp shifts
      refine ⟨s, state, List.mem_append_left _ ?_⟩
      rw [Array.getElem?_toList, found]
      exact List.mem_map_of_mem (mem_of_lookup leads)
    next =>
      unfold Table.reduction at moves
      split at moves <;> cases moves

theorem mem_reductions {s : State} {next : Option TokenKind} {p : Nat}
    (reduces : Table.reduction s next = .reduce p) : p ∈ s.reductions := by
  unfold Table.reduction at reduces
  split at reduces
  next q _ found =>
    obtain rfl := Move.reduce.inj reduces
    obtain ⟨k, -, leads⟩ := Option.bind_eq_some_iff.mp found
    exact List.mem_append_right _ (List.mem_map_of_mem (mem_of_lookup leads))
  next q _ found =>
    obtain rfl := Move.reduce.inj reduces
    rw [State.reductions, found]
    exact List.mem_cons_self
  next => cases reduces

theorem reductions_of_move {next : Option TokenKind} {p : Nat}
    (moves : table.move source next = .reduce p) :
    ∃ s, table.states[source]? = some s ∧ p ∈ s.reductions := by
  unfold Table.move at moves
  split at moves
  next => cases moves
  next s state =>
    refine ⟨s, state, ?_⟩
    split at moves
    next =>
      split at moves
      · cases moves
      · exact mem_reductions moves
    next =>
      split at moves
      · cases moves
      · exact mem_reductions moves

/-- The automaton accepts in its last state, at the end of the tokens. -/
theorem final_of_accept {next : Option TokenKind} (moves : table.move source next = .accept) :
    source = table.final ∧ next = none := by
  have other : ∀ s next, Table.reduction s next ≠ .accept := by
    intro s next accepts
    unfold Table.reduction at accepts
    split at accepts <;> cases accepts
  unfold Table.move at moves
  split at moves
  next => cases moves
  next s state =>
    split at moves
    next =>
      split at moves
      next last => exact ⟨last, rfl⟩
      next => exact absurd moves (other s none)
    next k =>
      split at moves
      · cases moves
      · exact absurd moves (other s (some k))

end Moves

/-! ## Known symbols -/

/-- The longest item of every state: a production and the place of the dot in its right side.  The
first state and the last have none. -/
def longestItems : List (List (Nat × Nat)) :=
  [
    [(0, 0), (0, 0), (0, 1), (2, 1), (1, 2), (4, 1), (5, 1), (6, 1), (7, 1), (8, 1), (9, 1),
      (10, 1), (11, 1), (12, 1), (13, 1), (14, 1), (15, 1), (16, 1), (56, 1), (78, 1), (22, 1),
      (23, 1), (25, 1), (24, 1), (230, 1), (231, 1), (250, 1), (265, 1), (267, 1), (268, 1),
      (17, 1), (18, 1)],
    [(19, 1), (20, 1), (212, 1), (269, 1), (271, 1), (272, 1), (213, 1), (214, 1), (215, 1),
      (297, 1), (298, 1), (299, 1), (300, 1), (301, 1), (302, 1), (303, 1), (304, 1), (305, 1),
      (306, 1), (307, 1), (309, 1), (320, 1), (321, 1), (322, 1), (311, 1), (313, 1), (314, 1),
      (323, 1), (21, 1), (26, 1), (27, 1), (196, 1)],
    [(346, 1), (347, 1), (348, 1), (349, 1), (352, 1), (353, 1), (354, 1), (355, 1), (356, 1),
      (358, 1), (359, 1), (361, 1), (232, 1), (15, 2), (56, 2), (57, 2), (58, 2), (59, 2), (60, 1),
      (63, 1), (64, 1), (23, 1), (24, 1), (25, 1), (65, 1), (78, 2), (81, 2), (82, 2), (83, 2),
      (84, 2), (86, 1), (87, 1)],
    [(88, 1), (89, 1), (90, 1), (91, 1), (94, 1), (231, 1), (102, 1), (105, 1), (101, 2), (22, 1),
      (102, 2), (105, 2), (111, 2), (112, 2), (113, 2), (114, 2), (115, 2), (117, 2), (118, 2),
      (124, 1), (125, 1), (230, 2), (234, 1), (235, 1), (194, 1), (195, 1), (231, 2), (233, 2),
      (312, 2), (315, 2), (250, 2), (265, 2)],
    [(267, 2), (268, 2), (212, 2), (216, 1), (218, 1), (221, 1), (222, 1), (269, 2), (233, 1),
      (271, 2), (273, 2), (274, 2), (275, 2), (276, 2), (277, 2), (278, 2), (279, 2), (280, 2),
      (281, 2), (282, 2), (283, 2), (284, 2), (285, 2), (286, 2), (287, 2), (288, 2), (289, 2),
      (290, 2), (291, 2), (292, 2), (293, 2), (294, 2)],
    [(295, 2), (296, 2), (297, 2), (298, 2), (299, 2), (300, 2), (301, 2), (302, 2), (303, 2),
      (304, 2), (305, 2), (306, 2), (307, 2), (308, 2), (324, 2), (325, 2), (328, 2), (330, 2),
      (338, 1), (236, 1), (237, 1), (329, 2), (331, 2), (332, 2), (333, 2), (322, 2), (326, 1),
      (345, 1), (233, 1), (311, 2), (313, 2), (238, 1)],
    [(239, 1), (242, 1), (243, 1), (246, 1), (245, 1), (314, 2), (196, 2), (198, 1), (200, 1),
      (201, 1), (170, 1), (171, 1), (349, 2), (273, 1), (356, 2), (359, 2), (360, 2), (340, 1),
      (273, 1), (344, 1), (361, 2), (362, 2), (363, 1), (366, 1), (367, 1), (368, 1), (369, 1),
      (28, 1), (371, 1), (29, 1), (30, 1), (31, 1)],
    [(32, 1), (33, 1), (34, 1), (35, 1), (36, 1), (37, 1), (38, 1), (39, 1), (40, 1), (41, 1),
      (42, 1), (43, 1), (44, 1), (45, 1), (46, 1), (47, 1), (48, 1), (49, 1), (50, 1), (51, 1),
      (52, 1), (53, 1), (54, 1), (55, 1), (232, 2), (56, 3), (57, 3), (58, 3), (59, 3), (61, 2),
      (64, 2), (65, 2)],
    [(66, 2), (67, 1), (70, 1), (22, 1), (74, 1), (76, 1), (77, 1), (78, 3), (79, 3), (80, 3),
      (82, 3), (92, 1), (93, 1), (83, 3), (84, 3), (85, 3), (91, 2), (94, 2), (95, 2), (96, 1),
      (99, 1), (101, 3), (102, 3), (105, 3), (111, 3), (114, 3), (115, 3), (117, 3), (118, 3),
      (121, 3), (122, 3), (123, 3)],
    [(124, 2), (125, 2), (234, 2), (235, 2), (231, 3), (233, 3), (312, 3), (315, 3), (250, 3),
      (265, 3), (267, 3), (268, 3), (217, 2), (218, 2), (210, 1), (211, 1), (222, 2), (223, 2),
      (224, 1), (28, 1), (228, 1), (229, 1), (273, 3), (274, 3), (275, 3), (276, 3), (277, 3),
      (278, 3), (279, 3), (280, 3), (281, 3), (282, 3)],
    [(283, 3), (284, 3), (285, 3), (286, 3), (287, 3), (288, 3), (289, 3), (290, 3), (291, 3),
      (292, 3), (293, 3), (294, 3), (295, 3), (296, 3), (324, 3), (28, 1), (325, 3), (330, 3),
      (334, 3), (336, 3), (338, 2), (339, 2), (331, 3), (335, 3), (337, 3), (332, 3), (333, 3),
      (326, 3), (327, 3), (208, 1), (326, 2), (311, 3)],
    [(318, 1), (273, 1), (313, 3), (240, 2), (246, 2), (245, 2), (181, 1), (182, 1), (314, 3),
      (196, 3), (197, 3), (200, 2), (202, 1), (203, 1), (201, 2), (350, 2), (351, 2), (356, 3),
      (357, 3), (341, 2), (359, 3), (344, 2), (361, 3), (364, 2), (366, 2), (372, 2), (367, 2),
      (368, 2), (369, 2), (371, 2), (56, 4), (57, 4)],
    [(58, 4), (61, 3), (62, 3), (64, 3), (65, 3), (68, 2), (71, 2), (72, 2), (74, 2), (78, 4),
      (82, 4), (92, 2), (83, 4), (84, 4), (85, 4), (94, 3), (97, 2), (100, 2), (101, 4), (102, 4),
      (105, 4), (106, 1), (107, 1), (111, 4), (114, 4), (115, 4), (117, 4), (118, 4), (119, 4),
      (120, 4), (126, 1), (127, 1)],
    [(128, 1), (130, 1), (132, 1), (133, 1), (134, 1), (137, 1), (138, 1), (139, 1), (140, 1),
      (141, 1), (142, 1), (143, 1), (144, 1), (145, 1), (146, 1), (147, 1), (148, 1), (149, 1),
      (151, 1), (152, 1), (153, 1), (157, 1), (158, 1), (159, 1), (160, 1), (123, 4), (124, 3),
      (125, 3), (234, 3), (235, 3), (312, 4), (315, 4)],
    [(250, 4), (251, 1), (252, 1), (265, 4), (267, 4), (217, 3), (218, 3), (219, 1), (220, 1),
      (210, 2), (222, 3), (225, 2), (227, 2), (228, 2), (229, 2), (294, 4), (325, 4), (336, 4),
      (338, 3), (337, 4), (333, 4), (327, 4), (208, 2), (155, 1), (313, 4), (316, 1), (317, 1),
      (241, 3), (244, 3), (246, 3), (245, 3), (314, 4)],
    [(197, 4), (199, 3), (200, 3), (204, 1), (205, 1), (202, 2), (201, 3), (351, 3), (357, 4),
      (341, 3), (364, 3), (366, 3), (372, 3), (367, 3), (368, 3), (369, 3), (56, 5), (57, 5),
      (58, 5), (62, 4), (68, 3), (71, 3), (73, 3), (75, 3), (83, 5), (84, 5), (85, 5), (97, 3),
      (100, 3), (101, 5), (102, 5), (103, 1)],
    [(104, 1), (105, 5), (106, 2), (108, 1), (110, 1), (111, 5), (114, 5), (115, 5), (117, 5),
      (120, 5), (129, 2), (127, 2), (128, 2), (131, 2), (133, 2), (135, 2), (136, 2), (138, 2),
      (154, 2), (206, 1), (207, 1), (141, 2), (147, 2), (149, 2), (150, 2), (151, 2), (152, 2),
      (157, 2), (161, 1), (163, 1), (164, 1), (172, 1)],
    [(173, 1), (175, 1), (177, 1), (168, 1), (169, 1), (158, 2), (123, 5), (124, 4), (125, 4),
      (234, 4), (235, 4), (315, 5), (250, 5), (253, 1), (254, 1), (251, 2), (265, 5), (267, 5),
      (219, 2), (225, 3), (228, 3), (294, 5), (336, 5), (337, 5), (209, 3), (208, 3), (313, 5),
      (317, 2), (245, 4), (314, 5), (204, 2), (201, 4)],
    [(357, 5), (372, 4), (369, 4), (57, 6), (58, 6), (62, 5), (73, 4), (75, 4), (85, 6), (101, 6),
      (102, 6), (103, 2), (109, 2), (110, 2), (114, 6), (115, 6), (117, 6), (129, 3), (131, 3),
      (135, 3), (136, 3), (154, 3), (149, 3), (156, 2), (151, 3), (152, 3), (183, 1), (184, 1),
      (187, 1), (188, 1), (192, 1), (153, 1)],
    [(191, 1), (157, 3), (162, 2), (166, 1), (167, 1), (172, 2), (174, 2), (182, 1), (173, 2),
      (179, 2), (175, 2), (177, 2), (178, 2), (158, 3), (123, 6), (124, 5), (125, 5), (234, 5),
      (235, 5), (247, 1), (248, 1), (315, 6), (250, 6), (253, 2), (251, 3), (266, 6), (228, 4),
      (156, 3), (209, 4), (317, 3), (314, 6), (372, 5)],
    [(369, 5), (85, 7), (102, 7), (109, 3), (114, 7), (115, 7), (116, 7), (152, 4), (185, 2),
      (192, 2), (193, 2), (190, 2), (165, 3), (172, 3), (174, 3), (173, 3), (179, 3), (180, 3),
      (177, 3), (178, 3), (124, 6), (234, 6), (235, 6), (249, 1), (247, 2), (250, 7), (256, 1),
      (266, 7), (372, 6), (102, 8), (116, 8), (152, 5)],
    [(186, 3), (189, 3), (192, 3), (190, 3), (172, 4), (174, 4), (173, 4), (179, 4), (180, 4),
      (177, 4), (178, 4), (124, 7), (234, 7), (249, 2), (250, 8), (255, 2), (257, 1), (258, 1),
      (259, 1), (260, 1), (261, 1), (264, 1), (116, 9), (152, 6), (192, 4), (190, 4), (174, 5),
      (173, 5), (179, 5), (180, 5), (177, 5), (178, 5)],
    [(124, 8), (249, 3), (259, 2), (260, 2), (263, 2), (262, 1), (261, 2), (264, 2), (192, 5),
      (174, 6), (179, 6), (180, 6), (177, 6), (124, 9), (263, 3), (262, 2), (261, 3), (264, 3),
      (174, 7), (179, 7), (177, 7), (263, 4), (262, 3), (264, 4), (179, 8), (263, 5), (264, 5),
      (263, 6), (264, 6), (263, 7), (264, 7), (264, 8)]]

/-- The symbols that are known to be on top of the stack in a state, the top first. -/
def known (state : Nat) : List Symbol :=
  let item := (longestItems.getD (state / 32) []).getD (state % 32) (0, 0)
  (((rules.toList[item.1]?).elim [] (·.rhs)).take item.2).reverse

/-- What is known in a state is known from the state before it and the symbol between them.  No edge
leads to the first state, and only a program leads to the last one. -/
theorem edges_known : ∀ e ∈ table.states.toList.zipIdx, ∀ x ∈ table.edges e.1,
    known x.2 <+: x.1 :: known e.2 ∧ x.2 ≠ 0
      ∧ (x.2 = table.final → e.2 = 0 ∧ x.1 = .n .program) := by
  decide +kernel

/-- In a state that reduces a production, its right side is known. -/
theorem reductions_known : ∀ e ∈ table.states.toList.zipIdx, ∀ p ∈ e.1.reductions,
    ∃ rule ∈ rules.toList[p]?, rule.rhs.reverse <+: known e.2 := by
  decide +kernel

theorem mem_zipIdx_states {source : Nat} {s : State} (state : table.states[source]? = some s) :
    (s, source) ∈ table.states.toList.zipIdx := by
  rw [List.mem_zipIdx_iff_getElem?, Array.getElem?_toList]
  exact state

section Known

variable {source target : Nat} {x : Symbol}

theorem Table.Edge.known (edge : table.Edge source x target) :
    known target <+: x :: known source := by
  obtain ⟨s, state, member⟩ := edge
  exact (edges_known _ (mem_zipIdx_states state) _ member).1

theorem Table.Edge.target_ne (edge : table.Edge source x target) : target ≠ 0 := by
  obtain ⟨s, state, member⟩ := edge
  exact (edges_known _ (mem_zipIdx_states state) _ member).2.1

theorem Table.Edge.of_final (edge : table.Edge source x table.final) :
    source = 0 ∧ x = .n .program := by
  obtain ⟨s, state, member⟩ := edge
  exact (edges_known _ (mem_zipIdx_states state) _ member).2.2 rfl

theorem known_of_reduce {next : Option TokenKind} {p : Nat}
    (moves : table.move source next = .reduce p) :
    ∃ bound : p < rules.size, rules[p].rhs.reverse <+: Grammar.known source := by
  obtain ⟨s, state, member⟩ := reductions_of_move moves
  obtain ⟨rule, found, right⟩ := reductions_known _ (mem_zipIdx_states state) p member
  rw [Array.getElem?_toList] at found
  obtain ⟨bound, rfl⟩ := Array.getElem?_eq_some_iff.mp found
  exact ⟨bound, right⟩

end Known

end Retype.Grammar

/-! ## Paths -/

namespace Retype.Parser

open Grammar

/-- A stack whose frames follow the edges of the table. -/
inductive Path : List (Frame rules) → Prop where
  | nil : Path []
  | cons {f : Frame rules} {stack : List (Frame rules)} (below : Path stack)
      (edge : table.Edge (topState stack) f.symbol f.state) : Path (f :: stack)

namespace Path

variable {stack : List (Frame rules)}

theorem drop (path : Path stack) (width : Nat) : Path (stack.drop width) := by
  induction width generalizing stack with
  | zero => exact path
  | succ width ih =>
    cases path with
    | nil => exact .nil
    | cons below edge => exact ih below

/-- The known symbols are on top of the stack. -/
theorem known (path : Path stack) : known (topState stack) <+: stack.map (·.symbol) := by
  induction path with
  | nil => exact List.nil_prefix
  | cons below edge ih => exact edge.known.trans (List.cons_prefix_cons.mpr ⟨rfl, ih⟩)

/-- A reduction finds its right side on the stack. -/
theorem symbols_of_reduce (path : Path stack) {next : Option TokenKind} {p : Nat}
    (moves : table.move (topState stack) next = .reduce p) : ∃ bound : p < rules.size,
      ((stack.take rules[p].rhs.length).reverse).map (·.symbol) = rules[p].rhs := by
  obtain ⟨bound, right⟩ := known_of_reduce moves
  refine ⟨bound, ?_⟩
  have top := List.prefix_iff_eq_take.mp (right.trans path.known)
  rw [List.length_reverse, ← List.map_take] at top
  rw [List.map_reverse, ← top, List.reverse_reverse]

/-- In the last state the stack is a program. -/
theorem of_final (path : Path stack) (last : topState stack = table.final) :
    ∃ f, stack = [f] ∧ f.symbol = .n .program := by
  cases path with
  | nil => cases last
  | @cons f stack below edge =>
    rw [show f.state = table.final from last] at edge
    obtain ⟨first, isProgram⟩ := edge.of_final
    cases below with
    | nil => exact ⟨f, rfl, isProgram⟩
    | cons _ inner => exact absurd first inner.target_ne

end Path

end Retype.Parser
