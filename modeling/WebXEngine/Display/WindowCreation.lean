import WebXEngine.Display.WindowLinks

/-! # How the tree of windows grows

The creation of windows from the tree of the server, downwards and upwards.

* **`WebXDisplay.TableInv`**, **`WebXDisplay.Inv`** — the invariants of the table and of the display.
* **`WebXDisplay.joins`** — the pairs of a parent and a child that the handling of a new window joins.
* **`Growth`** — what is kept while windows are created: new links are links of the server, and those
  that were there before stay.
* **`createInTree_growth`** — windows that do not have another parent may be joined. -/

namespace WebXEngine

open Forest (Linked IsChild)

namespace WebXDisplay

variable {root : UInt32} {server : XServer root} {before display display' : WebXDisplay}
  {unattached : List UInt32} {p c w : UInt32}

/-! ## The invariant -/

/-- The parent of a window. -/
def parentOf (display : WebXDisplay) (x11Window : UInt32) : Option UInt32 :=
  (display.getWindow x11Window).bind fun window => window.parent

/-- The invariant of the table: the links between the windows go both ways, and all windows but the
root window have a parent. -/
structure TableInv (root : UInt32) (display : WebXDisplay) : Prop where
  linked : Linked display.forest
  rootWindow : display.rootWindow = root
  root_known : (display.getWindow root).isSome = true
  root_top : ∀ p, ¬ IsChild display.forest p root
  null : (display.getWindow 0).isSome = false
  attached : ∀ w, (display.getWindow w).isSome = true → w ≠ root → ∃ p, IsChild display.forest p w

/-- The invariant of the display: that of the table, and the visible windows are those in it. -/
structure Inv (root : UInt32) (display : WebXDisplay) : Prop extends TableInv root display where
  visible : ∀ w ∈ display.visibleWindows, display.IsAlive w
  visible_nodup : display.visibleWindows.Nodup

/-- Children know their parent. -/
theorem parentOf_of_isChild (hlinked : Linked display.forest) (h : IsChild display.forest p c) :
    display.parentOf c = some p := by
  obtain ⟨l, hl, hparent⟩ := hlinked.child h
  obtain ⟨window, hwindow, rfl⟩ := getWindow_of_forest hl
  rw [parentOf, hwindow]
  exact hparent

/-- A window that knows its parent is one of its children. -/
theorem isChild_of_parentOf (hlinked : Linked display.forest) (h : display.parentOf c = some p) :
    IsChild display.forest p c := by
  obtain ⟨window, hwindow, hparent⟩ := Option.bind_eq_some_iff.mp h
  exact hlinked.parent (forest_of_getWindow hwindow) hparent

/-! ## The joins -/

/-- The pointer to the window is not null once it has been looked for. -/
def reaches (display : WebXDisplay) (tree : XTree) : Bool :=
  (display.getWindow tree.window).isSome || tree.isShown

mutual

/-- The parents and children that `createTree` joins. -/
def joinsBelow (display : WebXDisplay) : XTree → List (UInt32 × UInt32)
  | .node window _ children => joinsAmong display window children

/-- The parents and children that the loop over the children of a window joins. -/
def joinsAmong (display : WebXDisplay) (parent : UInt32) : List XTree → List (UInt32 × UInt32)
  | [] => []
  | child :: children =>
      if display.reaches child then
        (parent, child.window) :: joinsBelow display child ++ joinsAmong display parent children
      else
        joinsAmong display parent children

end

/-- The parents and children that the creation of a window joins, below and above it. -/
def joins (display : WebXDisplay) : List XTree → List (UInt32 × UInt32)
  | [] => []
  | [tree] => if display.reaches tree then joinsBelow display tree else []
  | tree :: parent :: path =>
      if display.reaches tree then
        joinsBelow display tree ++
          (if (display.getWindow parent.window).isSome then [] else joins display (parent :: path)) ++
          if display.reaches parent then [(parent.window, tree.window)] else []
      else
        []

/-- A window has no parent, or this one. -/
def MayJoin (display : WebXDisplay) (join : UInt32 × UInt32) : Prop :=
  display.parentOf join.2 = none ∨ display.parentOf join.2 = some join.1

instance (display : WebXDisplay) (join : UInt32 × UInt32) : Decidable (display.MayJoin join) :=
  inferInstanceAs (Decidable (_ ∨ _))

/-- The parent of a window that may be joined. -/
theorem MayJoin.eq (hlinked : Linked display.forest) (h : display.MayJoin (p, c)) {q : UInt32}
    (hq : IsChild display.forest q c) : q = p := by
  have hparent := parentOf_of_isChild hlinked hq
  rcases h with h | h <;> rw [hparent] at h
  · exact nomatch h
  · exact Option.some.inj h

/-! ## Growth -/

/-- All windows are still there. -/
def Extends (display display' : WebXDisplay) : Prop :=
  ∀ w, (display.getWindow w).isSome = true → (display'.getWindow w).isSome = true

/-- Windows are added one after the other. -/
theorem Extends.trans {display'' : WebXDisplay} (h : Extends display display')
    (h' : Extends display' display'') : Extends display display'' := fun w hw => h' w (h w hw)

/-- Between two points of the handling of an event: what is new is in the tree of the server. Some
windows may have no parent yet. -/
structure Growth (server : XServer root) (before : WebXDisplay) (unattached : List UInt32)
    (display : WebXDisplay) : Prop where
  linked : Linked display.forest
  rootWindow : display.rootWindow = before.rootWindow
  visibleWindows : display.visibleWindows = before.visibleWindows
  staleWindows : display.staleWindows = before.staleWindows
  visible_known : ∀ w ∈ before.visibleWindows, (before.getWindow w).isSome = true
  kept : Extends before display
  shown : ∀ w, (display.getWindow w).isSome = true → (before.getWindow w).isSome = true ∨
    ∃ tree ∈ server.tree.subtrees, tree.window = w ∧ tree.isShown = true
  child_kept : ∀ {p c}, IsChild before.forest p c → IsChild display.forest p c
  child_new : ∀ {p c}, IsChild display.forest p c →
    IsChild before.forest p c ∨ (p, c) ∈ server.tree.edges
  attached : ∀ w, (display.getWindow w).isSome = true →
    w = root ∨ w ∈ unattached ∨ ∃ p, IsChild display.forest p w

/-- The beginning. -/
theorem Inv.growth (h : Inv root before) (server : XServer root) : Growth server before [] before where
  linked := h.linked
  rootWindow := rfl
  visibleWindows := rfl
  staleWindows := rfl
  visible_known := fun w hw => (h.visible w hw).2
  kept := fun _ hw => hw
  shown := fun _ hw => .inl hw
  child_kept := fun hc => hc
  child_new := .inl
  attached := by
    intro w hw
    by_cases hroot : w = root
    · exact .inl hroot
    · exact .inr (.inr (h.attached w hw hroot))

/-- The end. -/
theorem Growth.inv (h : Growth server before [] display) (hbefore : Inv root before) :
    Inv root display where
  linked := h.linked
  rootWindow := h.rootWindow.trans hbefore.rootWindow
  root_known := h.kept root hbefore.root_known
  root_top := by
    intro p hp
    rcases h.child_new hp with hp | hp
    · exact hbefore.root_top p hp
    · exact server.root_not_mem_edges hp rfl
  null := by
    rw [Bool.eq_false_iff]
    intro hnull
    -- X has no window with the number 0
    rcases h.shown 0 hnull with hnull | ⟨tree, htree, hwindow, -⟩
    · exact Bool.eq_false_iff.mp hbefore.null hnull
    · exact server.nonzero _ (List.mem_map_of_mem htree) hwindow
  attached := by
    intro w hw hroot
    exact ((h.attached w hw).resolve_left hroot).resolve_left List.not_mem_nil
  visible := by
    intro w hw
    obtain ⟨hstale, hknown⟩ := hbefore.visible w (h.visibleWindows ▸ hw)
    exact ⟨h.staleWindows ▸ hstale, h.kept w hknown⟩
  visible_nodup := h.visibleWindows ▸ hbefore.visible_nodup

/-- A window is attached. -/
theorem Growth.attach (h : Growth server before (w :: unattached) display)
    (hw : w = root ∨ ∃ p, IsChild display.forest p w) : Growth server before unattached display where
  __ := h
  attached := by
    intro x hx
    rcases h.attached x hx with hroot | hmem | hparent
    · exact .inl hroot
    · rcases List.mem_cons.mp hmem with rfl | hmem
      · exact hw.imp_right .inr
      · exact .inr (.inl hmem)
    · exact .inr (.inr hparent)

/-- The windows of the server that are not reached stay unknown. -/
theorem Growth.createWindow_of_not_reaches (h : Growth server before unattached display)
    {tree : XTree} (htree : tree ∈ server.tree.subtrees) (hreaches : before.reaches tree = false) :
    display.createWindow tree.window tree.attributes = none := by
  rw [reaches, Bool.or_eq_false_iff] at hreaches
  refine createWindow_of_hidden ?_ hreaches.2
  rw [Bool.eq_false_iff]
  intro hknown
  rcases h.shown _ hknown with hbefore | ⟨t, ht, hwindow, hshown⟩
  · exact Bool.eq_false_iff.mp hreaches.1 hbefore
  · obtain rfl := server.eq_of_window_eq ht htree hwindow
    exact Bool.eq_false_iff.mp hreaches.2 hshown

/-- A window of the server that is reached is created if it is not there. -/
theorem Growth.createWindow (h : Growth server before unattached display) {tree : XTree}
    (htree : tree ∈ server.tree.subtrees) (hreaches : before.reaches tree = true) :
    ∃ display', display.createWindow tree.window tree.attributes = some display' ∧
      Growth server before (tree.window :: unattached) display' ∧
      (display'.getWindow tree.window).isSome = true ∧ Extends display display' := by
  cases hknown : (display.getWindow tree.window).isSome with
  | true =>
      refine ⟨display, createWindow_of_known hknown _, { h with attached := ?_ }, hknown,
        fun _ hw => hw⟩
      exact fun w hw => (h.attached w hw).imp_right (Or.imp_left (List.mem_cons_of_mem _))
  | false =>
      have hnone : display.forest tree.window = none := by
        rw [← Option.isNone_iff_eq_none, ← Option.isSome_eq_false_iff, isSome_forest, hknown]
      -- it is reached although it is not in the table, so the server shows it
      have hshown : tree.isShown = true := by
        rw [reaches, Bool.or_eq_true] at hreaches
        refine hreaches.resolve_left fun hbefore => ?_
        exact Bool.eq_false_iff.mp hknown (h.kept _ hbefore)
      -- the visible windows are in the table
      have hvisible : tree.window ∉ display.visibleWindows := fun hw =>
        Bool.eq_false_iff.mp hknown (h.kept _ (h.visible_known _ (h.visibleWindows ▸ hw)))
      obtain ⟨display', hcreate, hrelinked⟩ := createWindow_relinked hknown hvisible hshown
      have hsome (w : UInt32) : (display'.getWindow w).isSome = true ↔
          w = tree.window ∨ (display.getWindow w).isSome = true := by
        rw [← isSome_forest, hrelinked.forest, Forest.create]
        by_cases hw : w = tree.window
        · simp [hw]
        · simp [hw, isSome_forest]
      have hchild {p c : UInt32} : IsChild display'.forest p c ↔ IsChild display.forest p c := by
        rw [hrelinked.forest]
        exact Forest.isChild_create hnone
      refine ⟨display', hcreate, ?_, (hsome _).mpr (.inl rfl), fun w hw => (hsome w).mpr (.inr hw)⟩
      constructor
      case linked => exact hrelinked.forest ▸ h.linked.create hnone
      case rootWindow => exact hrelinked.rootWindow.trans h.rootWindow
      case visibleWindows => exact hrelinked.visibleWindows.trans h.visibleWindows
      case staleWindows => exact hrelinked.staleWindows.trans h.staleWindows
      case visible_known => exact h.visible_known
      case kept => exact fun w hw => (hsome w).mpr (.inr (h.kept w hw))
      case shown =>
        intro w hw
        rcases (hsome w).mp hw with rfl | hw
        · exact .inr ⟨tree, htree, rfl, hshown⟩
        · exact h.shown w hw
      case child_kept => exact fun hc => hchild.mpr (h.child_kept hc)
      case child_new => exact fun hc => h.child_new (hchild.mp hc)
      -- `tree.window` awaits its parent: it joins the windows that are not attached
      case attached =>
        intro w hw
        rcases (hsome w).mp hw with rfl | hw
        · exact .inr (.inl List.mem_cons_self)
        · rcases h.attached w hw with hroot | hmem | ⟨p, hp⟩
          · exact .inl hroot
          · exact .inr (.inl (List.mem_cons_of_mem _ hmem))
          · exact .inr (.inr ⟨p, hchild.mpr hp⟩)

/-- A window is joined to the parent that it has in the server. -/
theorem Growth.addChild (h : Growth server before unattached display)
    (hedge : (p, c) ∈ server.tree.edges) (hjoin : ∀ q, IsChild before.forest q c → q = p)
    (hp : (display.getWindow p).isSome = true) (hc : (display.getWindow c).isSome = true) :
    ∃ display', display.addChild p c = .ok display' ∧ Growth server before unattached display' ∧
      IsChild display'.forest p c ∧ Extends display display' := by
  by_cases hchild : IsChild display.forest p c
  · exact ⟨display, addChild_of_isChild hchild, h, hchild, fun _ hw => hw⟩
  -- a parent that the window has is the one of the server
  have hnone (q : UInt32) : ¬ IsChild display.forest q c := by
    intro hq
    have hqp : q = p := (h.child_new hq).elim (hjoin q) (server.eq_of_mem_edges · hedge)
    exact hchild (hqp ▸ hq)
  obtain ⟨display', hadd, hrelinked⟩ := addChild_relinked hp hc hchild
  have hsome (w : UInt32) : (display'.getWindow w).isSome = (display.getWindow w).isSome := by
    rw [← isSome_forest, hrelinked.forest, Forest.link, Option.isSome_map, isSome_forest]
  have hchildren {q x : UInt32} : IsChild display'.forest q x ↔
      IsChild display.forest q x ∨ q = p ∧ x = c := by
    rw [hrelinked.forest]
    exact Forest.isChild_link (by rw [isSome_forest, hp])
  refine ⟨display', hadd, ?_, hchildren.mpr (.inr ⟨rfl, rfl⟩), fun w hw => (hsome w).trans hw⟩
  constructor
  case linked =>
    rw [hrelinked.forest]
    obtain ⟨lp, hlp⟩ := Option.isSome_iff_exists.mp (isSome_forest.trans hp)
    obtain ⟨lc, hlc⟩ := Option.isSome_iff_exists.mp (isSome_forest.trans hc)
    refine h.linked.link hlp hlc ?_
    rw [Option.eq_none_iff_forall_ne_some]
    exact fun q hq => hnone q (h.linked.parent hlc hq)
  case rootWindow => exact hrelinked.rootWindow.trans h.rootWindow
  case visibleWindows => exact hrelinked.visibleWindows.trans h.visibleWindows
  case staleWindows => exact hrelinked.staleWindows.trans h.staleWindows
  case visible_known => exact h.visible_known
  case kept => exact fun w hw => (hsome w).trans (h.kept w hw)
  case shown => exact fun w hw => h.shown w ((hsome w).symm.trans hw)
  case child_kept => exact fun hq => hchildren.mpr (.inl (h.child_kept hq))
  case child_new =>
    intro q x hq
    rcases hchildren.mp hq with hq | ⟨rfl, rfl⟩
    · exact h.child_new hq
    · exact .inr hedge
  case attached =>
    intro w hw
    rcases h.attached w ((hsome w).symm.trans hw) with hroot | hmem | ⟨q, hq⟩
    · exact .inl hroot
    · exact .inr (.inl hmem)
    · exact .inr (.inr ⟨q, hchildren.mpr (.inl hq)⟩)

/-! ## Downwards and upwards -/

mutual

/-- What is below a window is created. -/
theorem Growth.createTree (hbefore : Linked before.forest) : ∀ (tree : XTree)
    {unattached : List UInt32} {display : WebXDisplay}, tree ∈ server.tree.subtrees →
      Growth server before unattached display → (display.getWindow tree.window).isSome = true →
      (∀ join ∈ joinsBelow before tree, before.MayJoin join) →
      ∃ display', WebXDisplay.createTree tree display = .ok display' ∧
        Growth server before unattached display' ∧ Extends display display'
  | .node window attributes children, _, _, htree, h, hknown, hjoins => by
      rw [WebXDisplay.createTree]
      refine Growth.createChildren hbefore window children ?_ h hknown hjoins
      intro child hchild
      refine ⟨?_, server.tree.mem_edges htree hchild⟩
      exact server.tree.subtrees_subset htree (XTree.mem_subtrees_of_mem_children hchild)

/-- The loop over the children of a window. -/
theorem Growth.createChildren (hbefore : Linked before.forest) (parent : UInt32) :
    ∀ (children : List XTree) {unattached : List UInt32} {display : WebXDisplay},
      (∀ child ∈ children, child ∈ server.tree.subtrees ∧
        (parent, child.window) ∈ server.tree.edges) →
      Growth server before unattached display → (display.getWindow parent).isSome = true →
      (∀ join ∈ joinsAmong before parent children, before.MayJoin join) →
      ∃ display', WebXDisplay.createChildren parent children display = .ok display' ∧
        Growth server before unattached display' ∧ Extends display display'
  | [], _, display, _, h, _, _ => ⟨display, rfl, h, fun _ hw => hw⟩
  | child :: children, _, display, hchildren, h, hparent, hjoins => by
      rw [List.forall_mem_cons] at hchildren
      obtain ⟨⟨htree, hedge⟩, hrest⟩ := hchildren
      rw [joinsAmong] at hjoins
      rw [WebXDisplay.createChildren]
      cases hreaches : before.reaches child with
      | false =>
          -- a window that is not reached is skipped, with all windows below it
          rw [h.createWindow_of_not_reaches htree hreaches]
          rw [hreaches] at hjoins
          exact Growth.createChildren hbefore parent children hrest h hparent hjoins
      | true =>
          rw [hreaches, if_pos rfl, List.cons_append, List.forall_mem_cons,
            List.forall_mem_append] at hjoins
          obtain ⟨hjoin, hbelow, hothers⟩ := hjoins
          -- the window is created, joined to its parent, followed by those below it and by its siblings
          obtain ⟨d₁, hcreate, h₁, hknown₁, hext₁⟩ := h.createWindow htree hreaches
          obtain ⟨d₂, hadd, h₂, hchild₂, hext₂⟩ := h₁.addChild hedge
            (fun q => hjoin.eq hbefore) (hext₁ _ hparent) hknown₁
          obtain ⟨d₃, htree₃, h₃, hext₃⟩ := Growth.createTree hbefore child htree
            (h₂.attach (.inr ⟨parent, hchild₂⟩)) (hext₂ _ hknown₁) hbelow
          have hext := (hext₁.trans hext₂).trans hext₃
          obtain ⟨d₄, hloop, h₄, hext₄⟩ := Growth.createChildren hbefore parent children hrest h₃
            (hext _ hparent) hothers
          refine ⟨d₄, ?_, h₄, hext.trans hext₄⟩
          rw [hcreate]
          change (d₁.addChild parent child.window >>= fun display => _) = _
          rw [hadd]
          change (WebXDisplay.createTree child d₂ >>= fun display => _) = _
          rw [htree₃]
          exact hloop

end

/-- **A window is created, with what is below it and with the ancestors that are not known, when all
the joins may be made.** -/
theorem Growth.createInTree (hbefore : TableInv root before) {path : List XTree}
    (hpath : server.tree.IsPath path) : ∀ {tree : XTree} {rest : List XTree}
    {unattached : List UInt32} {display : WebXDisplay}, path = tree :: rest →
      Growth server before unattached display → before.reaches tree = true →
      (tree.window = root → server.unwritten.isShown = false) →
      (∀ join ∈ joins before path, before.MayJoin join) →
      ∃ display', WebXDisplay.createInTree server.unwritten path display = .ok (true, display') ∧
        Growth server before unattached display' ∧
        (display'.getWindow tree.window).isSome = true ∧ Extends display display' := by
  induction hpath with
  | top =>
      rintro tree rest unattached display hcons h hreaches hunwritten hjoins
      cases hcons
      rw [joins, if_pos hreaches] at hjoins
      obtain ⟨d₁, hcreate, h₁, hknown₁, hext₁⟩ := h.createWindow server.tree.mem_subtrees_self hreaches
      obtain ⟨d₂, htree, h₂, hext₂⟩ := h₁.createTree hbefore.linked _ server.tree.mem_subtrees_self
        hknown₁ hjoins
      -- the root window has no parent: the null identifier is looked for in vain
      have h₃ := h₂.attach (.inl server.root_eq)
      have hnull : (d₂.getWindow 0).isSome = false := by
        rw [Bool.eq_false_iff]
        intro hnull
        rcases h₂.shown 0 hnull with hnull | ⟨t, ht, hwindow, -⟩
        · exact Bool.eq_false_iff.mp hbefore.null hnull
        · exact server.nonzero _ (List.mem_map_of_mem ht) hwindow
      have hunknown : d₂.createUnknownInTree server.unwritten 0 = (false, d₂) := by
        rw [createUnknownInTree, createWindow_of_hidden hnull (hunwritten server.root_eq)]
      refine ⟨d₂, ?_, h₃, hext₂ _ hknown₁, hext₁.trans hext₂⟩
      rw [WebXDisplay.createInTree, hcreate]
      change (WebXDisplay.createTree server.tree d₁ >>= fun display => _) = _
      rw [htree]
      simp [hnull, hunknown, bind, Except.bind, pure, Except.pure]
  | @up tree parent path hchild hpath ih =>
      rintro _ _ unattached display hcons h hreaches hunwritten hjoins
      cases hcons
      have hparentTree := hpath.subset List.mem_cons_self
      have hsubtree := server.tree.subtrees_subset hparentTree (XTree.mem_subtrees_of_mem_children hchild)
      have hedge := server.tree.mem_edges hparentTree hchild
      rw [joins, if_pos hreaches, List.forall_mem_append, List.forall_mem_append] at hjoins
      obtain ⟨⟨hbelow, habove⟩, hjoin⟩ := hjoins
      obtain ⟨d₁, hcreate, h₁, hknown₁, hext₁⟩ := h.createWindow hsubtree hreaches
      obtain ⟨d₂, htree, h₂, hext₂⟩ := h₁.createTree hbefore.linked tree hsubtree hknown₁ hbelow
      have hknown₂ := hext₂ _ hknown₁
      rw [WebXDisplay.createInTree, hcreate]
      change ∃ display', (WebXDisplay.createTree tree d₁ >>= fun display => _) = _ ∧ _
      rw [htree]
      cases hparent : (d₂.getWindow parent.window).isSome with
      | true =>
          have hreachesParent : before.reaches parent = true := by
            rw [reaches, Bool.or_eq_true]
            refine (h₂.shown _ hparent).imp_right ?_
            rintro ⟨t, ht, hwindow, hshown⟩
            exact server.eq_of_window_eq ht hparentTree hwindow ▸ hshown
          rw [if_pos hreachesParent, List.forall_mem_singleton] at hjoin
          obtain ⟨d₃, hadd, h₃, hchild₃, hext₃⟩ := h₂.addChild hedge
            (fun q => hjoin.eq hbefore.linked) hparent hknown₂
          refine ⟨d₃, ?_, h₃.attach (.inr ⟨_, hchild₃⟩), hext₃ _ hknown₂,
            (hext₁.trans hext₂).trans hext₃⟩
          simp [hparent, hadd, bind, Except.bind, pure, Except.pure]
      | false =>
          have hunknown : (before.getWindow parent.window).isSome = false := by
            rw [Bool.eq_false_iff]
            exact fun hknown => Bool.eq_false_iff.mp hparent (h₂.kept _ hknown)
          cases hreachesParent : before.reaches parent with
          | true =>
              rw [if_pos hreachesParent, List.forall_mem_singleton] at hjoin
              rw [hunknown, if_neg Bool.false_ne_true] at habove
              have hroot : parent.window = root → server.unwritten.isShown = false := by
                intro hroot
                rw [hroot, hbefore.root_known] at hunknown
                exact nomatch hunknown
              obtain ⟨d₃, hcreate₃, h₃, hparent₃, hext₃⟩ := ih rfl h₂ hreachesParent hroot habove
              obtain ⟨d₄, hadd, h₄, hchild₄, hext₄⟩ := h₃.addChild hedge
                (fun q => hjoin.eq hbefore.linked) hparent₃ (hext₃ _ hknown₂)
              have hext := hext₃.trans hext₄
              refine ⟨d₄, ?_, h₄.attach (.inr ⟨_, hchild₄⟩), hext _ hknown₂,
                (hext₁.trans hext₂).trans hext⟩
              simp [hparent, hcreate₃, hadd, bind, Except.bind, pure, Except.pure]
          | false =>
              -- the window is not shown either, so that it was known, and it still has its parent
              rw [reaches, hunknown, Bool.false_or] at hreachesParent
              have hshown : ¬ tree.isShown = true := fun hshown =>
                Bool.eq_false_iff.mp hreachesParent (server.shown_parent hparentTree hchild hshown)
              rw [reaches, Bool.or_eq_true, or_iff_left hshown] at hreaches
              obtain ⟨q, hq⟩ := hbefore.attached _ hreaches (server.root_not_mem_edges hedge)
              have hnone := createWindow_of_hidden hparent hreachesParent
              refine ⟨d₂, ?_, h₂.attach (.inr ⟨q, h₂.child_kept hq⟩), hknown₂, hext₁.trans hext₂⟩
              have habove₂ : WebXDisplay.createInTree server.unwritten (parent :: path) d₂ =
                  .ok (false, d₂) := by rw [WebXDisplay.createInTree, hnone]
              simp [hparent, habove₂, bind, Except.bind, pure, Except.pure]

end WebXDisplay

end WebXEngine
