import WebXEngine.Models.Geometry
import WebXEngine.Models.Image
import Mathlib.Data.List.Nodup

/-! # The X server

What the engine sees of the X server when it handles an event: the tree of the windows as it is then,
which may be newer than the event.

* **`XTree`** — a window with its attributes and what is below it.
* **`XServer`** — the tree of all windows, their shapes, and what the attributes of a window that is
  not in it look like.
* **`XServer.pathTo`** — a window with its ancestors. -/

namespace WebXEngine

/-- The attributes of a window: its place, whether it is mapped with all of its ancestors, and
whether it has an output. -/
structure XWindowAttributes where
  x : Int32
  y : Int32
  width : Int32
  height : Int32
  isViewable : Bool
  isInputOutput : Bool
  deriving DecidableEq, Repr

namespace XWindowAttributes

/-- The test made on the attributes before a window is created. -/
def isShown (attributes : XWindowAttributes) : Bool :=
  attributes.isViewable && attributes.isInputOutput

/-- The place of a window. -/
def rectangle (attributes : XWindowAttributes) : WebXRectangle :=
  .ofSize attributes.x.toInt attributes.y.toInt attributes.width.toInt attributes.height.toInt

end XWindowAttributes

/-- What the queries about the shape of a window give: whether they succeed, and the mask of a window
that is not a rectangle. -/
structure XWindowShape where
  isBuilt : Bool
  shapeMask : Option WebXImage
  deriving DecidableEq, Repr

/-- A window of the server, its attributes and the windows below it. -/
inductive XTree
  | node (window : UInt32) (attributes : XWindowAttributes) (children : List XTree)

namespace XTree

/-- The window at the top. -/
def window : XTree → UInt32
  | node window _ _ => window

/-- The attributes of the window at the top. -/
def attributes : XTree → XWindowAttributes
  | node _ attributes _ => attributes

/-- What is directly below. -/
def children : XTree → List XTree
  | node _ _ children => children

/-- The window can be seen when it is not covered. -/
def isShown (tree : XTree) : Bool := tree.attributes.isShown

mutual

/-- A tree and all the trees below. -/
def subtrees : XTree → List XTree
  | node window attributes children => node window attributes children :: subtreesAmong children

/-- Some trees and all the trees below them. -/
def subtreesAmong : List XTree → List XTree
  | [] => []
  | tree :: trees => subtrees tree ++ subtreesAmong trees

end

mutual

/-- Below a window that is not shown, none is. -/
def shownUnder (parentShown : Bool) : XTree → Bool
  | node _ attributes children =>
      (!attributes.isShown || parentShown) && shownUnderAmong attributes.isShown children

/-- Below a window that is not shown, none is. -/
def shownUnderAmong (parentShown : Bool) : List XTree → Bool
  | [] => true
  | tree :: trees => shownUnder parentShown tree && shownUnderAmong parentShown trees

end

mutual

/-- The tree of a window, its parent, the parent of its parent and so on up to this tree. -/
def pathTo (target : UInt32) : XTree → Option (List XTree)
  | node window attributes children =>
      if window = target then
        some [node window attributes children]
      else
        (pathToAmong target children).map fun path => path ++ [node window attributes children]

/-- The path to a window in the first of some trees that contains it. -/
def pathToAmong (target : UInt32) : List XTree → Option (List XTree)
  | [] => none
  | tree :: trees => (pathTo target tree).or (pathToAmong target trees)

end

mutual

/-- The pairs of a parent and a child in a tree. -/
def edges : XTree → List (UInt32 × UInt32)
  | node window _ children => edgesAmong window children

/-- The pairs of a parent and a child, for the children of a window. -/
def edgesAmong (parent : UInt32) : List XTree → List (UInt32 × UInt32)
  | [] => []
  | tree :: trees => (parent, tree.window) :: edges tree ++ edgesAmong parent trees

end

/-- The windows of a tree. -/
def windows (tree : XTree) : List UInt32 := tree.subtrees.map window

end XTree

/-- The X server at a time: its windows under the root window, each once, none of them with the null
identifier; a window is only shown under windows that are shown. The attributes that are asked for a
window that does not exist are not written: the memory keeps what was there. -/
structure XServer (root : UInt32) where
  tree : XTree
  shapes : UInt32 → XWindowShape
  unwritten : XWindowAttributes
  root_eq : tree.window = root
  root_shown : tree.isShown = true
  nodup : tree.windows.Nodup
  nonzero : ∀ window ∈ tree.windows, window ≠ 0
  shown : tree.shownUnder true = true

namespace XServer

variable {root : UInt32} (server : XServer root)

/-- A window with its ancestors, as the queries of the tree find them. -/
def pathTo (window : UInt32) : Option (List XTree) := server.tree.pathTo window

end XServer

/-! ## Paths -/

namespace XTree

/-- A tree is one of its subtrees. -/
theorem mem_subtrees_self (tree : XTree) : tree ∈ tree.subtrees := by
  cases tree
  rw [subtrees]
  exact List.mem_cons_self

/-- A subtree of some trees is one of one of them. -/
theorem mem_subtreesAmong {tree : XTree} {trees : List XTree} :
    tree ∈ subtreesAmong trees ↔ ∃ t ∈ trees, tree ∈ t.subtrees := by
  induction trees with
  | nil => simp [subtreesAmong]
  | cons t trees ih => rw [subtreesAmong, List.mem_append, ih, List.exists_mem_cons_iff]

/-- What is below a tree is below what the tree is below. -/
theorem mem_subtrees_of_mem_children {tree child : XTree} (h : child ∈ tree.children) :
    child ∈ tree.subtrees := by
  cases tree with
  | node window attributes children =>
      rw [subtrees]
      exact List.mem_cons_of_mem _ (mem_subtreesAmong.mpr ⟨child, h, child.mem_subtrees_self⟩)

mutual

/-- What is below a tree below another is below the other. -/
theorem subtrees_subset : ∀ (tree : XTree) {t : XTree}, t ∈ tree.subtrees → t.subtrees ⊆ tree.subtrees
  | node window attributes children, t, ht => by
      rw [subtrees, List.mem_cons] at ht
      rcases ht with rfl | ht
      · exact List.Subset.refl _
      · rw [subtrees]
        exact List.Subset.trans (subtreesAmong_subset children ht) (List.subset_cons_self _ _)

/-- What is below a tree below others is below the others. -/
theorem subtreesAmong_subset : ∀ (trees : List XTree) {t : XTree}, t ∈ subtreesAmong trees →
    t.subtrees ⊆ subtreesAmong trees
  | [], _, ht => nomatch ht
  | tree :: trees, t, ht => by
      rw [subtreesAmong, List.mem_append] at ht
      rw [subtreesAmong]
      rcases ht with ht | ht
      · exact List.Subset.trans (subtrees_subset tree ht) (List.subset_append_left _ _)
      · exact List.Subset.trans (subtreesAmong_subset trees ht) (List.subset_append_right _ _)

end

mutual

/-- Every window but the one at the top is the child of one parent. -/
theorem map_snd_edges : ∀ tree : XTree, tree.windows = tree.window :: tree.edges.map Prod.snd
  | node window attributes children => by
      rw [windows, subtrees, edges, List.map_cons, ← map_snd_edgesAmong window children]

/-- Every window of some trees is the child of one parent. -/
theorem map_snd_edgesAmong (parent : UInt32) : ∀ trees : List XTree,
    (subtreesAmong trees).map window = (edgesAmong parent trees).map Prod.snd
  | [] => rfl
  | tree :: trees => by
      have htree := map_snd_edges tree
      rw [windows] at htree
      rw [subtreesAmong, edgesAmong, List.map_append, List.map_append, List.map_cons, htree,
        map_snd_edgesAmong parent trees]

end

mutual

/-- A window and a window directly below are a parent and a child. -/
theorem mem_edges : ∀ (tree : XTree) {t child : XTree}, t ∈ tree.subtrees → child ∈ t.children →
    (t.window, child.window) ∈ tree.edges
  | node window attributes children, t, child, ht, hchild => by
      rw [subtrees, List.mem_cons] at ht
      obtain ⟨hfirst, hbelow⟩ := mem_edgesAmong window children
      rcases ht with rfl | ht
      · exact hfirst child hchild
      · exact hbelow t ht child hchild

/-- The pairs of a parent and a child for the children of a window, and below. -/
theorem mem_edgesAmong (parent : UInt32) : ∀ trees : List XTree,
    (∀ child ∈ trees, (parent, child.window) ∈ edgesAmong parent trees) ∧
      ∀ t ∈ subtreesAmong trees, ∀ child ∈ t.children,
        (t.window, child.window) ∈ edgesAmong parent trees
  | [] => ⟨by simp, by simp [subtreesAmong]⟩
  | tree :: trees => by
      obtain ⟨hfirst, hbelow⟩ := mem_edgesAmong parent trees
      have hmore : edgesAmong parent trees ⊆ edgesAmong parent (tree :: trees) := by
        rw [edgesAmong]
        exact List.subset_append_right _ _
      refine ⟨?_, ?_⟩
      · rw [List.forall_mem_cons]
        refine ⟨?_, fun child hchild => hmore (hfirst child hchild)⟩
        rw [edgesAmong]
        exact List.mem_cons_self
      · intro t ht child hchild
        rw [subtreesAmong, List.mem_append] at ht
        -- below the first tree, or below one of the others
        rcases ht with ht | ht
        · rw [edgesAmong]
          refine List.mem_append_left _ (List.mem_cons_of_mem _ ?_)
          exact mem_edges tree ht hchild
        · exact hmore (hbelow t ht child hchild)

end

/-- The windows of some trees are among those of the trees and of what is below. -/
theorem map_window_sublist (trees : List XTree) :
    (trees.map window).Sublist ((subtreesAmong trees).map window) := by
  induction trees with
  | nil => exact List.Sublist.slnil
  | cons tree trees ih =>
      cases tree with
      | node w attributes children =>
          rw [subtreesAmong, subtrees, List.cons_append, List.map_cons, List.map_cons,
            List.map_append]
          exact (ih.trans (List.sublist_append_right _ _)).cons_cons _

mutual

/-- Below the trees of a tree, a window is only shown when its parent is. -/
theorem shown_of_shownUnder : ∀ (tree : XTree) {b : Bool}, tree.shownUnder b = true →
    (tree.isShown = true → b = true) ∧
      ∀ t ∈ tree.subtrees, ∀ child ∈ t.children, child.isShown = true → t.isShown = true
  | node window attributes children, b, h => by
      rw [shownUnder, Bool.and_eq_true, Bool.or_eq_true, Bool.not_eq_true'] at h
      refine ⟨fun hshown => h.1.resolve_left ?_, ?_⟩
      · rw [show attributes.isShown = true from hshown]
        exact Bool.true_eq_false_eq_False
      · intro t ht child hchild hshown
        obtain ⟨hchildren, hbelow⟩ := shown_of_shownUnderAmong children h.2
        rw [subtrees, List.mem_cons] at ht
        rcases ht with rfl | ht
        · exact hchildren child hchild hshown
        · exact hbelow t ht child hchild hshown

/-- Below some trees, a window is only shown when its parent is. -/
theorem shown_of_shownUnderAmong : ∀ (trees : List XTree) {b : Bool}, shownUnderAmong b trees = true →
    (∀ tree ∈ trees, tree.isShown = true → b = true) ∧
      ∀ t ∈ subtreesAmong trees, ∀ child ∈ t.children, child.isShown = true → t.isShown = true
  | [], _, _ => ⟨by simp, by simp [subtreesAmong]⟩
  | tree :: trees, b, h => by
      rw [shownUnderAmong, Bool.and_eq_true] at h
      obtain ⟨htree, htreeBelow⟩ := shown_of_shownUnder tree h.1
      obtain ⟨htrees, htreesBelow⟩ := shown_of_shownUnderAmong trees h.2
      refine ⟨?_, ?_⟩
      · rw [List.forall_mem_cons]
        exact ⟨htree, htrees⟩
      · intro t ht
        rw [subtreesAmong, List.mem_append] at ht
        exact ht.elim (htreeBelow t) (htreesBelow t)

end

/-- The trees of a path, from a window up to the top: each is directly below the next one. -/
inductive IsPath (top : XTree) : List XTree → Prop
  | top : IsPath top [top]
  | up {tree parent : XTree} {path : List XTree} (hchild : tree ∈ parent.children)
      (hpath : IsPath top (parent :: path)) : IsPath top (tree :: parent :: path)

/-- A path can be continued above its top. -/
theorem IsPath.append {top above : XTree} {path : List XTree} (h : IsPath top path)
    (htop : top ∈ above.children) : IsPath above (path ++ [above]) := by
  induction h with
  | top => exact .up htop .top
  | up hchild _ ih => exact .up hchild ih

/-- The trees of a path are below its top. -/
theorem IsPath.subset {top : XTree} {path : List XTree} (h : IsPath top path) :
    path ⊆ top.subtrees := by
  induction h with
  | top => exact List.cons_subset.mpr ⟨top.mem_subtrees_self, List.nil_subset _⟩
  | up hchild _ ih =>
      refine List.cons_subset.mpr ⟨?_, ih⟩
      exact subtrees_subset _ (ih List.mem_cons_self) (mem_subtrees_of_mem_children hchild)

mutual

/-- The path that is found begins at the window. -/
theorem pathTo_spec {target : UInt32} : ∀ (tree : XTree) {path : List XTree},
    tree.pathTo target = some path →
      IsPath tree path ∧ ∃ t rest, path = t :: rest ∧ t.window = target
  | node window attributes children, path, h => by
      rw [pathTo] at h
      split_ifs at h with hw
      · cases h
        exact ⟨.top, _, [], rfl, hw⟩
      · obtain ⟨below, hbelow, rfl⟩ := Option.map_eq_some_iff.mp h
        obtain ⟨child, hchild, hpath, t, rest, rfl, ht⟩ := pathToAmong_spec children hbelow
        exact ⟨hpath.append hchild, t, rest ++ [_], rfl, ht⟩

/-- The path that is found leads to one of the trees. -/
theorem pathToAmong_spec {target : UInt32} : ∀ (trees : List XTree) {path : List XTree},
    pathToAmong target trees = some path →
      ∃ tree ∈ trees, IsPath tree path ∧ ∃ t rest, path = t :: rest ∧ t.window = target
  | [], _, h => nomatch h
  | tree :: trees, path, h => by
      rw [pathToAmong, Option.or_eq_some_iff] at h
      rcases h with h | ⟨-, h⟩
      · exact ⟨tree, List.mem_cons_self, pathTo_spec tree h⟩
      · obtain ⟨t, ht, hspec⟩ := pathToAmong_spec trees h
        exact ⟨t, List.mem_cons_of_mem _ ht, hspec⟩

end

end XTree

namespace XServer

variable {root : UInt32} (server : XServer root)

/-- Trees of the same window are the same. -/
theorem eq_of_window_eq {t t' : XTree} (ht : t ∈ server.tree.subtrees)
    (ht' : t' ∈ server.tree.subtrees) (h : t.window = t'.window) : t = t' :=
  List.inj_on_of_nodup_map server.nodup ht ht' h

/-- A window has one parent. -/
theorem eq_of_mem_edges {p q c : UInt32} (hp : (p, c) ∈ server.tree.edges)
    (hq : (q, c) ∈ server.tree.edges) : p = q := by
  have hnodup := server.nodup
  rw [XTree.map_snd_edges, List.nodup_cons] at hnodup
  exact congrArg Prod.fst (List.inj_on_of_nodup_map hnodup.2 hp hq rfl)

/-- The root window has no parent. -/
theorem root_not_mem_edges {p c : UInt32} (h : (p, c) ∈ server.tree.edges) : c ≠ root := by
  have hnodup := server.nodup
  rw [XTree.map_snd_edges, List.nodup_cons, server.root_eq] at hnodup
  rintro rfl
  exact hnodup.1 (List.mem_map_of_mem h)

/-- The windows directly below the root window are different. -/
theorem nodup_children : (server.tree.children.map XTree.window).Nodup := by
  have hnodup := server.nodup
  rw [XTree.windows] at hnodup
  cases htree : server.tree with
  | node window attributes children =>
      rw [htree, XTree.subtrees, List.map_cons, List.nodup_cons] at hnodup
      exact (XTree.map_window_sublist children).nodup hnodup.2

/-- The parent of a window that is shown is shown. -/
theorem shown_parent {parent child : XTree} (hparent : parent ∈ server.tree.subtrees)
    (hchild : child ∈ parent.children) (hshown : child.isShown = true) : parent.isShown = true :=
  (XTree.shown_of_shownUnder server.tree server.shown).2 parent hparent child hchild hshown

end XServer

end WebXEngine
