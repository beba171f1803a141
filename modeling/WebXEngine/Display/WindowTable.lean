import WebXEngine.Display.WindowCreation
import WebXEngine.Foundations.Runs

/-! # The table of the windows over runs

The table of the windows, their links and the list of the visible windows agree with each other in
the runs that keep away from four situations.

* **`WebXDisplay.Copes`** — what has to hold of an event and the display that handles it.
* **`Inv.step`** — the events keep the invariant, or exhaust the stack.
* **`WebXDisplay.ConsistentRuns`** — the agreement, in all states of all runs. -/

namespace WebXEngine

open Forest (Linked IsChild Pruned)
open Relation (TransGen)

namespace WebXDisplay

variable {root : UInt32} {display display' : WebXDisplay} {p c w : UInt32}

/-! ## Unmapping -/

/-- The null parent is never met, whatever window but the root window is removed. What is not below
it stays. -/
theorem TableInv.removeWindowFromTree (h : TableInv root display) (hw : w ≠ root)
    (hknown : (display.getWindow w).isSome = true) (stackDepth : ℕ) :
    display.removeWindowFromTree stackDepth w = .error .stackOverflow ∨
      ∃ display', display.removeWindowFromTree stackDepth w = .ok display' ∧
        TableInv root display' ∧ display'.visibleWindows = display.visibleWithout w ∧
        display'.staleWindows = display.staleWindows ∧
        ∀ x, (display.getWindow x).isSome = true → x ≠ w →
          ¬ TransGen (IsChild display.forest) w x → (display'.getWindow x).isSome = true := by
  obtain ⟨window, hwindow⟩ := Option.isSome_iff_exists.mp hknown
  rw [WebXDisplay.removeWindowFromTree, hwindow]
  rcases deleteTree_pruned stackDepth display w h.linked hknown with
    hdeep | ⟨d₁, hdelete, f, hrelinked₁, hpruned⟩
  · exact .inl (by rw [hdeep]; rfl)
  · -- what is below `w` is deleted first: `w` is then a leaf that its parent still has as a child
    obtain ⟨p, hp⟩ := h.attached w hknown hw
    obtain ⟨⟨parent, children⟩, hl, hleaf⟩ := hpruned.leaf
    obtain ⟨l', hl', hparent⟩ := h.linked.child hp
    rw [hl, Option.some.injEq] at hl'
    subst hl'
    obtain rfl : parent = some p := hparent
    have hknown₁ : (d₁.getWindow w).isSome = true := by
      rw [← isSome_forest, hrelinked₁.forest, hleaf]
      rfl
    obtain ⟨d₂, hmodify, hrelinked₂⟩ := modifyWindow_kept
      (fun window => { window with isViewable := false }) hknown₁ (fun _ => rfl)
    set d₃ : WebXDisplay := { d₂ with visibleWindows := d₂.visibleWithout w } with hd₃
    have hforest₃ : d₃.forest = f := hrelinked₂.forest.trans hrelinked₁.forest
    have hleaf₃ : d₃.forest w = some ⟨some p, []⟩ := hforest₃ ▸ hleaf
    obtain ⟨window₃, hwindow₃, hlinks⟩ := getWindow_of_forest hleaf₃
    have hparent₃ : window₃.parent = some p := congrArg Links.parent hlinks
    -- `w` leaves its parent and the table: what is left is the pruned forest without `w`
    obtain ⟨d₄, hremove, hrelinked₄⟩ :=
      removeLeaf_relinked (hforest₃.symm ▸ hpruned.linked) hleaf₃
    rw [hforest₃] at hrelinked₄
    have hchild {q x : UInt32} : IsChild d₄.forest q x ↔ IsChild f q x ∧ x ≠ w := by
      rw [hrelinked₄.forest]
      exact Forest.isChild_removeLeaf hpruned.linked hleaf
    have hsome {x : UInt32} : (d₄.getWindow x).isSome = true ↔ (f x).isSome = true ∧ x ≠ w := by
      rw [← isSome_forest, hrelinked₄.forest]
      exact Forest.isSome_removeLeaf
    have hkept {x : UInt32} (hx : (display.getWindow x).isSome = true) (hxw : x ≠ w)
        (hpath : ¬ TransGen (IsChild display.forest) w x) : (d₄.getWindow x).isSome = true :=
      hsome.mpr ⟨hpruned.kept hpath (isSome_forest.trans hx), hxw⟩
    have hstale₂ := hrelinked₂.staleWindows.trans hrelinked₁.staleWindows
    refine .inr ⟨d₄, ?_, ?_, ?_, hrelinked₄.staleWindows.trans hstale₂, fun x => hkept⟩
    · simpa [hdelete, hmodify, ← hd₃, deref_of_getWindow hwindow₃, hparent₃, bind, Except.bind, pure,
        Except.pure] using hremove
    · constructor
      case linked =>
        rw [hrelinked₄.forest]
        exact hpruned.linked.removeLeaf hleaf
      case rootWindow =>
        exact hrelinked₄.rootWindow.trans
          (hrelinked₂.rootWindow.trans (hrelinked₁.rootWindow.trans h.rootWindow))
      case root_known =>
        refine hkept h.root_known hw.symm fun hpath => ?_
        obtain ⟨q, -, hq⟩ := TransGen.tail'_iff.mp hpath
        exact h.root_top q hq
      case root_top => exact fun q hq => h.root_top q (hpruned.isChild (hchild.mp hq).1)
      case null =>
        rw [Bool.eq_false_iff]
        intro hnull
        refine Bool.eq_false_iff.mp h.null ?_
        exact isSome_forest.symm.trans (hpruned.isSome (hsome.mp hnull).1)
      case attached =>
        intro x hx hroot
        obtain ⟨hx, hxw⟩ := hsome.mp hx
        obtain ⟨q, hq⟩ := h.attached x (isSome_forest.symm.trans (hpruned.isSome hx)) hroot
        exact ⟨q, hchild.mpr ⟨hpruned.isChild_of_isSome h.linked hxw hx hq, hxw⟩⟩
    · refine hrelinked₄.visibleWindows.trans ?_
      change d₂.visibleWithout w = _
      rw [visibleWithout, visibleWithout, hstale₂,
        hrelinked₂.visibleWindows.trans hrelinked₁.visibleWindows]

/-- The null parent is not met. -/
theorem TableInv.removeWindowFromTree_ne_nullDereference (h : TableInv root display) (hw : w ≠ root)
    (stackDepth : ℕ) : display.removeWindowFromTree stackDepth w ≠ .error .nullDereference := by
  cases hknown : display.getWindow w with
  | none =>
      rw [WebXDisplay.removeWindowFromTree, hknown]
      exact fun h => nomatch h
  | some window =>
      rcases h.removeWindowFromTree hw (by rw [hknown]; rfl) stackDepth with
        hdeep | ⟨display', hremove, -⟩
      · rw [hdeep]
        exact fun h => nomatch h
      · rw [hremove]
        exact fun h => nomatch h

/-- A window that is removed is not visible any more. The list has no pointer to an old window. -/
theorem Inv.visibleWithout_eq (h : Inv root display) (w : UInt32) :
    display.visibleWithout w = display.visibleWindows.erase w := by
  rw [visibleWithout]
  split_ifs with hstale
  · exact (List.erase_of_not_mem fun hw => (h.visible w hw).1 hstale).symm
  · rfl

/-- A window may be unmapped when no visible window is below it. -/
theorem Inv.removeWindowFromTree (h : Inv root display) (hw : w ≠ root)
    (hvisible : ∀ v ∈ display.visibleWindows, ¬ TransGen (IsChild display.forest) w v)
    (stackDepth : ℕ) :
    display.removeWindowFromTree stackDepth w = .error .stackOverflow ∨
      ∃ display', display.removeWindowFromTree stackDepth w = .ok display' ∧ Inv root display' := by
  cases hknown : display.getWindow w with
  | none => exact .inr ⟨display, by rw [WebXDisplay.removeWindowFromTree, hknown], h⟩
  | some window =>
      refine (h.toTableInv.removeWindowFromTree hw (by rw [hknown]; rfl) stackDepth).imp_right ?_
      rintro ⟨display', hremove, htable, herase, hstale, hkept⟩
      rw [h.visibleWithout_eq] at herase
      refine ⟨display', hremove, htable, ?_, ?_⟩
      · intro v hv
        rw [herase, h.visible_nodup.mem_erase_iff] at hv
        obtain ⟨hv', hknown⟩ := h.visible v hv.2
        exact ⟨hstale ▸ hv', hkept v hknown hv.1 (hvisible v hv.2)⟩
      · rw [herase]
        exact h.visible_nodup.erase w

/-! ## Changes of parents -/

/-- A window may have a new parent that is known. -/
theorem Inv.reparentWindow (h : Inv root display) (hw : w ≠ root)
    (hp : (display.getWindow w).isSome = true → (display.getWindow p).isSome = true) :
    ∃ display', display.reparentWindow w p = .ok display' ∧ Inv root display' := by
  cases hwindow : display.getWindow w with
  | none => exact ⟨display, by rw [WebXDisplay.reparentWindow, hwindow], h⟩
  | some window =>
      have hknown : (display.getWindow w).isSome = true := by rw [hwindow]; rfl
      -- the window has a parent, as it is not the root
      obtain ⟨q, hq⟩ := h.attached w hknown hw
      obtain ⟨l, hl, hparent⟩ := h.linked.child hq
      rw [forest_of_getWindow hwindow, Option.some.injEq] at hl
      have hparent' : window.parent = some q := (congrArg Links.parent hl).trans hparent
      obtain ⟨d₁, d₂, hremove, hp₁, hadd, hrelinked⟩ := moveChild_relinked h.linked hq (hp hknown)
      have hsome (x : UInt32) : (d₂.getWindow x).isSome = (display.getWindow x).isSome := by
        rw [← isSome_forest, hrelinked.forest, Forest.isSome_move, isSome_forest]
      -- the window is a child of the new parent, and of no other one
      have hchild {r x : UInt32} :
          IsChild d₂.forest r x ↔ IsChild display.forest r x ∧ x ≠ w ∨ r = p ∧ x = w := by
        rw [hrelinked.forest]
        exact Forest.isChild_move h.linked hq (isSome_forest.trans (hp hknown))
      have hvisible := hrelinked.visibleWindows
      refine ⟨d₂, ?_, ?_⟩
      · obtain ⟨windowₚ, hwindowₚ⟩ := Option.isSome_iff_exists.mp hp₁
        simp [WebXDisplay.reparentWindow, hwindow, hparent', hremove, hwindowₚ, hadd, bind,
          Except.bind]
      constructor
      case visible =>
        intro v hv
        obtain ⟨hv', hknown⟩ := h.visible v (hvisible ▸ hv)
        exact ⟨hrelinked.staleWindows ▸ hv', (hsome v).trans hknown⟩
      case visible_nodup => exact hvisible ▸ h.visible_nodup
      constructor
      case linked =>
        rw [hrelinked.forest]
        exact h.linked.move hq (isSome_forest.trans (hp hknown))
      case rootWindow => exact hrelinked.rootWindow.trans h.rootWindow
      case root_known => exact (hsome root).trans h.root_known
      case root_top =>
        -- the root window is not the one that moves
        intro r hr
        rcases hchild.mp hr with ⟨hr, -⟩ | ⟨-, hroot⟩
        · exact h.root_top r hr
        · exact hw hroot.symm
      case null => exact (hsome 0).trans h.null
      case attached =>
        intro x hx hroot
        -- the window that moves has its new parent, the others keep theirs
        by_cases hxw : x = w
        · exact ⟨p, hchild.mpr (.inr ⟨rfl, hxw⟩)⟩
        · obtain ⟨r, hr⟩ := h.attached x ((hsome x).symm.trans hx) hroot
          exact ⟨r, hchild.mpr (.inl ⟨hr, hxw⟩)⟩

/-! ## Mapping -/

/-- The creation of a window makes a window from attributes that were not written, when the server
does not know the window any more, or is asked for the parent of the root window. -/
def TrustsServer (display : WebXDisplay) (server : XServer root) (x11Window : UInt32) : Prop :=
  server.unwritten.isShown = false ∨
    x11Window ≠ root ∧
      ((server.pathTo x11Window).isSome = true ∨ (display.getWindow x11Window).isSome = true)

/-- A window may be mapped when its attributes are known and the joins may be made. -/
theorem Inv.createWindowInTree (h : Inv root display) {server : XServer root}
    (htrust : display.TrustsServer server w)
    (hjoins : ∀ path, server.pathTo w = some path →
      ∀ join ∈ joins display path, display.MayJoin join) :
    ∃ display', display.createWindowInTree server w = .ok display' ∧ Inv root display' := by
  rw [WebXDisplay.createWindowInTree]
  cases hpath : server.pathTo w with
  | none =>
      refine ⟨_, rfl, ?_⟩
      -- X does not know the window: nothing is created
      have hcreate : (display.createUnknownInTree server.unwritten w).2 = display := by
        rw [createUnknownInTree]
        cases hknown : (display.getWindow w).isSome with
        | true => rw [createWindow_of_known hknown]
        | false =>
            rw [TrustsServer, hpath, hknown] at htrust
            rw [createWindow_of_hidden hknown (htrust.resolve_right (by simp))]
      rw [hcreate]
      exact h
  | some path =>
      obtain ⟨hspec, tree, rest, rfl, rfl⟩ := server.tree.pathTo_spec hpath
      cases hreaches : display.reaches tree with
      | false =>
          have hnone := (h.growth server).createWindow_of_not_reaches
            (hspec.subset List.mem_cons_self) hreaches
          refine ⟨display, ?_, h⟩
          dsimp only
          rw [createInTree, hnone]
          rfl
      | true =>
          obtain ⟨display', hcreate, hgrowth, -, -⟩ := Growth.createInTree h.toTableInv hspec rfl
            (h.growth server) hreaches (fun hroot => htrust.resolve_right fun htrust => htrust.1 hroot)
            (hjoins _ hpath)
          exact ⟨display', congrArg (Except.map Prod.snd) hcreate, hgrowth.inv h⟩

/-! ## The visible windows -/

/-- Only the links count for the table. -/
theorem TableInv.of_forest_eq (h : TableInv root display) (hforest : display'.forest = display.forest)
    (hrootWindow : display'.rootWindow = display.rootWindow) : TableInv root display' := by
  have hsome (x : UInt32) : (display'.getWindow x).isSome = (display.getWindow x).isSome := by
    rw [← isSome_forest, hforest, isSome_forest]
  obtain ⟨hlinked, hroot, hknown, htop, hnull, hattached⟩ := h
  rw [← hforest] at hlinked htop
  refine ⟨hlinked, hrootWindow.trans hroot, (hsome root).trans hknown, htop,
    (hsome 0).trans hnull, ?_⟩
  intro w hw hroot
  rw [hforest]
  exact hattached w ((hsome w).symm.trans hw) hroot

/-- The visible windows that are found are in the table. The windows that are stale stay so. -/
theorem findVisibleWindows_ok (viewport : WebXSize) (shapes : UInt32 → XWindowShape) :
    ∀ (trees : List XTree) (display : WebXDisplay),
    ∃ display', findVisibleWindows viewport shapes trees display = .ok display' ∧
      display'.forest = display.forest ∧ display'.rootWindow = display.rootWindow ∧
      display'.staleWindows = display.staleWindows ∧
      ∃ found, display'.visibleWindows = display.visibleWindows ++ found ∧
        found.Sublist (trees.map XTree.window) ∧
        ∀ w ∈ found, (display.getWindow w).isSome = true := by
  intro trees
  induction trees with
  | nil =>
      intro display
      exact ⟨display, rfl, rfl, rfl, rfl, [], (List.append_nil _).symm, List.nil_sublist _, by simp⟩
  | cons tree trees ih =>
      intro display
      rw [findVisibleWindows]
      cases hwindow : display.getWindow tree.window with
      | none =>
          -- a window that is not in the table is skipped
          obtain ⟨display', hfind, hforest, hroot, hstale, found, hfound, hsublist, hknown⟩ := ih display
          exact ⟨display', hfind, hforest, hroot, hstale, found, hfound, hsublist.cons _, hknown⟩
      | some window =>
          -- the changes of attributes and of shape keep the links, which is all that the IH needs
          obtain ⟨d₁, hupdate, hrelinked⟩ := modifyWindow_kept (w := tree.window)
            (fun window => { window with
              rectangle := tree.attributes.rectangle, isViewable := tree.attributes.isShown })
            (by rw [hwindow]; rfl) (fun _ => rfl)
          have hsome {x : UInt32} (hx : (d₁.getWindow x).isSome = true) :
              (display.getWindow x).isSome = true := by
            rw [← isSome_forest, ← hrelinked.forest, isSome_forest, hx]
          rw [show display.updateAttributes tree.window tree.attributes = .ok d₁ from hupdate]
          dsimp only [bind, Except.bind]
          split_ifs with hvisible
          · have hknown₁ : (d₁.getWindow tree.window).isSome = true := by
              rw [← isSome_forest, hrelinked.forest, isSome_forest, hwindow]
              rfl
            obtain ⟨d₂, hshape, hrelinked₂⟩ :=
              modifyWindow_kept (WebXWindow.updateShape (shapes tree.window)) hknown₁ (fun _ => rfl)
            have hforest₂ := hrelinked₂.forest.trans hrelinked.forest
            obtain ⟨display', hfind, hforest, hroot, hstale, found, hfound, hsublist, hknown⟩ :=
              ih { d₂ with visibleWindows := d₂.visibleWindows ++ [tree.window] }
            rw [hshape]
            refine ⟨display', hfind, hforest.trans hforest₂,
              hroot.trans (hrelinked₂.rootWindow.trans hrelinked.rootWindow),
              hstale.trans (hrelinked₂.staleWindows.trans hrelinked.staleWindows),
              tree.window :: found, ?_, hsublist.cons_cons _, ?_⟩
            · rw [hfound, hrelinked₂.visibleWindows, hrelinked.visibleWindows, List.append_assoc,
                List.singleton_append]
            · rw [List.forall_mem_cons]
              refine ⟨by rw [hwindow]; rfl, fun x hx => ?_⟩
              have hx₂ : (d₂.getWindow x).isSome = true := hknown x hx
              rwa [← isSome_forest, hforest₂, isSome_forest] at hx₂
          · obtain ⟨display', hfind, hforest, hroot, hstale, found, hfound, hsublist, hknown⟩ := ih d₁
            refine ⟨display', hfind, hforest.trans hrelinked.forest, hroot.trans hrelinked.rootWindow,
              hstale.trans hrelinked.staleWindows, found,
              hfound.trans (by rw [hrelinked.visibleWindows]), hsublist.cons _,
              fun x hx => hsome (hknown x hx)⟩

/-- The old visible windows are still in the table. -/
theorem hideOldWindows_ok (allX11Windows : List UInt32) : ∀ (olds : List UInt32)
    (display : WebXDisplay), (∀ w ∈ olds, display.IsAlive w) →
      ∃ display', hideOldWindows allX11Windows olds display = .ok display' ∧
        Relinked display display.forest display' := by
  intro olds
  induction olds with
  | nil => exact fun display _ => ⟨display, rfl, .refl display⟩
  | cons w olds ih =>
      intro display holds
      rw [List.forall_mem_cons] at holds
      obtain ⟨window, hwindow⟩ := Option.isSome_iff_exists.mp holds.1.2
      rw [hideOldWindows, if_neg holds.1.1]
      split_ifs with hvisible hexists
      · exact ih display holds.2
      · rw [deref_of_getWindow hwindow]
        exact ih display holds.2
      -- the window has gone: it is hidden, and stays where it is in the tree
      · obtain ⟨d₁, hmodify, hrelinked⟩ := modifyWindow_kept
          (fun window => { window with isViewable := false }) holds.1.2 (fun _ => rfl)
        obtain ⟨d₂, hhide, hrelinked₂⟩ := ih d₁ fun x hx => by
          rw [IsAlive, ← isSome_forest, hrelinked.forest, isSome_forest, hrelinked.staleWindows]
          exact holds.2 x hx
        rw [hmodify]
        exact ⟨d₂, hhide, hrelinked.forest ▸ hrelinked.trans hrelinked₂⟩

/-- The visible windows may be looked for at any time. -/
theorem Inv.updateVisibleWindows (h : Inv root display) (server : XServer root) :
    ∃ display', display.updateVisibleWindows server = .ok display' ∧ Inv root display' := by
  obtain ⟨d₁, hupdate, hrelinked₁⟩ := modifyWindow_kept (w := display.rootWindow)
    (fun window => { window with
      rectangle := server.tree.attributes.rectangle, isViewable := server.tree.attributes.isShown })
    (by rw [h.rootWindow, h.root_known]) (fun _ => rfl)
  obtain ⟨d₂, hfind, hforest₂, hroot₂, hstale₂, found, hfound, hsublist, hknown⟩ :=
    findVisibleWindows_ok server.tree.attributes.rectangle.size server.shapes server.tree.children
      { d₁ with visibleWindows := [] }
  have hforest : d₂.forest = display.forest := hforest₂.trans hrelinked₁.forest
  have hsome (x : UInt32) : (d₂.getWindow x).isSome = (display.getWindow x).isSome := by
    rw [← isSome_forest, hforest, isSome_forest]
  obtain ⟨d₃, hhide, hrelinked₃⟩ := hideOldWindows_ok (server.tree.children.map XTree.window)
    display.visibleWindows d₂ fun w hw => by
      rw [IsAlive, hsome, hstale₂]
      exact hrelinked₁.staleWindows ▸ h.visible w hw
  have hvisible : d₃.visibleWindows = found := hrelinked₃.visibleWindows.trans hfound
  refine ⟨{ d₃ with staleWindows := [] }, ?_, ?_⟩
  · rw [WebXDisplay.updateVisibleWindows,
      show display.updateAttributes display.rootWindow server.tree.attributes = .ok d₁ from hupdate]
    change (findVisibleWindows _ _ _ _ >>= fun display => _) = _
    rw [hfind]
    change (hideOldWindows _ d₁.visibleWindows d₂ >>= fun display => _) = _
    rw [hrelinked₁.visibleWindows, hhide]
    rfl
  · refine ⟨h.toTableInv.of_forest_eq (hrelinked₃.forest.trans hforest)
      (hrelinked₃.rootWindow.trans (hroot₂.trans hrelinked₁.rootWindow)), ?_, ?_⟩
    -- the windows that were found are known
    · intro w hw
      have hw₁ := hknown w (hvisible ▸ hw)
      rw [← isSome_forest, ← hforest₂, ← hrelinked₃.forest, isSome_forest] at hw₁
      exact ⟨List.not_mem_nil, hw₁⟩
    · change d₃.visibleWindows.Nodup
      rw [hvisible]
      exact hsublist.nodup server.nodup_children

/-! ## Runs -/

/-- The display starts with the windows of the server. -/
theorem init_inv (server : XServer root) :
    ∃ display, WebXDisplay.init server = .ok display ∧ Inv root display := by
  have hroot : root ≠ 0 := by
    have hnonzero := server.nonzero _ (List.mem_map_of_mem server.tree.mem_subtrees_self)
    rwa [server.root_eq] at hnonzero
  set empty : WebXDisplay :=
    { rootWindow := root, allWindows := fun _ => none, visibleWindows := [], staleWindows := [] } with hempty
  have hempty_root : (empty.getWindow root).isSome = false := rfl
  obtain ⟨d₁, hcreate, hrelinked₁⟩ :=
    createWindow_relinked hempty_root List.not_mem_nil server.root_shown
  have hsome (w : UInt32) : (d₁.getWindow w).isSome = decide (w = root) := by
    rw [← isSome_forest, hrelinked₁.forest, Forest.create]
    by_cases hw : w = root
    · simp [hw]
    · simp [hw, forest, getWindow, hempty]
  have hchild (p c : UInt32) : ¬ IsChild d₁.forest p c := by
    rw [hrelinked₁.forest, Forest.isChild_create rfl]
    rintro ⟨l, hl, -⟩
    cases hl
  -- the display with the root window alone
  have hinv₁ : Inv root d₁ := by
    constructor
    case visible =>
      intro w hw
      rw [hrelinked₁.visibleWindows] at hw
      cases hw
    case visible_nodup => exact hrelinked₁.visibleWindows ▸ .nil
    constructor
    case linked =>
      rw [hrelinked₁.forest]
      refine Linked.create ⟨?_, ?_, ?_⟩ rfl
      · rintro p c ⟨l, hl, -⟩
        cases hl
      · intro p c l hl
        cases hl
      · intro p l hl
        cases hl
    case rootWindow => exact hrelinked₁.rootWindow
    case root_known => rw [hsome, decide_eq_true rfl]
    case root_top => exact fun p => hchild p root
    case null => rw [hsome, decide_eq_false hroot.symm]
    case attached =>
      intro w hw hne
      rw [hsome, decide_eq_true_iff] at hw
      exact absurd hw hne
  obtain ⟨d₂, htree, hgrowth, -⟩ := Growth.createTree hinv₁.linked server.tree
    server.tree.mem_subtrees_self (hinv₁.growth server)
    (by rw [server.root_eq, hinv₁.root_known]) (by
      intro join _
      rw [MayJoin, Option.eq_none_iff_forall_ne_some]
      exact .inl fun p hp => hchild p _ (isChild_of_parentOf hinv₁.linked hp))
  obtain ⟨d₃, hupdate, hinv₃⟩ := (hgrowth.inv hinv₁).updateVisibleWindows server
  refine ⟨d₃, ?_, hinv₃⟩
  rw [WebXDisplay.init, ← hempty, hcreate]
  change (createTree server.tree d₁ >>= fun display => _) = _
  rw [htree]
  exact hupdate

/-- The root window is neither unmapped nor moved. -/
def SparesRoot : WindowEvent root → Prop
  | .map _ _ | .updateVisibleWindows _ => True
  | .unmap x11Window | .reparent x11Window _ => x11Window ≠ root

/-- The display can handle an event. A window that appears is still known to the server or its
attributes are not used, and none of the windows it is joined with, as a parent or as a child, is
the child of another window. No visible window is below a window that disappears. A window that is
known moves to a window that is known. -/
def Copes (display : WebXDisplay) : WindowEvent root → Prop
  | .map x11Window server => display.TrustsServer server x11Window ∧
      ∀ path, server.pathTo x11Window = some path →
        ∀ join ∈ joins display path, display.MayJoin join
  | .unmap x11Window =>
      ∀ v ∈ display.visibleWindows, ¬ TransGen (IsChild display.forest) x11Window v
  | .reparent x11Window parentX11Window => (display.getWindow x11Window).isSome = true →
      (display.getWindow parentX11Window).isSome = true
  | .updateVisibleWindows _ => True

/-- **The events that the display can handle keep the invariant, unless the stack is too small.** -/
theorem Inv.step (h : Inv root display) {event : WindowEvent root} (hspares : SparesRoot event)
    (hcopes : display.Copes event) (stackDepth : ℕ) :
    display.step stackDepth event = .error .stackOverflow ∨
      ∃ display', display.step stackDepth event = .ok display' ∧ Inv root display' := by
  cases event with
  | map x11Window server => exact .inr (h.createWindowInTree hcopes.1 hcopes.2)
  | unmap x11Window => exact h.removeWindowFromTree hspares hcopes stackDepth
  | reparent x11Window parentX11Window => exact .inr (h.reparentWindow hspares hcopes)
  | updateVisibleWindows server => exact .inr (h.updateVisibleWindows server)

/-- The table of the windows agrees with itself and with the list of the visible windows. -/
structure Consistent (display : WebXDisplay) : Prop where
  children_known : ∀ {p c : UInt32} {window : WebXWindow}, display.getWindow p = some window →
    c ∈ window.children → (display.getWindow c).isSome = true
  children_nodup : ∀ {p : UInt32} {window : WebXWindow}, display.getWindow p = some window →
    window.children.Nodup
  child_iff_parent : ∀ {p c : UInt32},
    (∃ window, display.getWindow p = some window ∧ c ∈ window.children) ↔
      ∃ window, display.getWindow c = some window ∧ window.parent = some p
  visible_known : ∀ {w : UInt32}, w ∈ display.visibleWindows → display.IsAlive w

/-- **What the invariant says in the words of the display.** -/
theorem Inv.consistent (h : Inv root display) : display.Consistent where
  children_known := by
    intro p c window hwindow hc
    obtain ⟨l, hl, -⟩ := h.linked.child ((isChild_iff hwindow).mpr hc)
    rw [← isSome_forest, hl]
    rfl
  children_nodup := fun hwindow => h.linked.nodup (forest_of_getWindow hwindow)
  child_iff_parent := by
    intro p c
    constructor
    · rintro ⟨window, hwindow, hc⟩
      exact Option.bind_eq_some_iff.mp
        (parentOf_of_isChild h.linked ((isChild_iff hwindow).mpr hc))
    · intro hparent
      obtain ⟨l, hl, hc⟩ := isChild_of_parentOf h.linked (Option.bind_eq_some_iff.mpr hparent)
      obtain ⟨window, hwindow, rfl⟩ := getWindow_of_forest hl
      exact ⟨window, hwindow, hc⟩
  visible_known := fun {w} hw => h.visible w hw

/-- In all states of the runs whose events satisfy a condition, the table is consistent, and the
removal of a window does not meet a null parent. -/
def ConsistentRuns (root : UInt32) (stackDepth : ℕ)
    (condition : WebXDisplay → WindowEvent root → Prop) : Prop :=
  ∀ (server : XServer root) (events : List (WindowEvent root)) (start display : WebXDisplay),
    WebXDisplay.init server = .ok start →
    Run (step stackDepth) (fun display event => SparesRoot event ∧ condition display event) start
      events display →
    display.Consistent ∧
      ∀ w ≠ root, display.removeWindowFromTree stackDepth w ≠ .error .nullDereference

/-- **The table stays consistent, as long as the display can handle the events.** -/
theorem consistentRuns (root : UInt32) (stackDepth : ℕ) :
    ConsistentRuns root stackDepth Copes := by
  intro server events start display hinit hrun
  obtain ⟨start', hinit', hinv⟩ := init_inv server
  cases hinit.symm.trans hinit'
  have hend : Inv root display := by
    refine hrun.invariant (P := Inv root) ?_ hinv
    rintro d event d' hd ⟨hspares, hcopes⟩ hstep
    rcases hd.step hspares hcopes stackDepth with hdeep | ⟨d'', hstep', hd''⟩
    · exact nomatch hstep.symm.trans hdeep
    · cases hstep.symm.trans hstep'
      exact hd''
  exact ⟨hend.consistent, fun w hw => hend.toTableInv.removeWindowFromTree_ne_nullDereference hw _⟩

/-! ### A window that moves -/

/-- A window that is shown. -/
private def shownWindow : XWindowAttributes := ⟨0, 0, 100, 100, true, true⟩

/-- Attributes that do not look as if the window was shown. -/
private def noWindow : XWindowAttributes := ⟨0, 0, 0, 0, false, false⟩

/-- The root window, with a window and its child. -/
private def serverBefore : XServer 1 where
  tree := .node 1 shownWindow [.node 2 shownWindow [.node 3 shownWindow []]]
  shapes := fun _ => ⟨true, none⟩
  unwritten := noWindow
  root_eq := rfl
  root_shown := rfl
  nodup := by decide
  nonzero := by simp [XTree.windows, XTree.subtrees, XTree.subtreesAmong, XTree.window]
  shown := rfl

/-- A new window has appeared. -/
private def serverBetween : XServer 1 where
  tree := .node 1 shownWindow [.node 2 shownWindow [.node 3 shownWindow []], .node 4 shownWindow []]
  shapes := fun _ => ⟨true, none⟩
  unwritten := noWindow
  root_eq := rfl
  root_shown := rfl
  nodup := by decide
  nonzero := by simp [XTree.windows, XTree.subtrees, XTree.subtreesAmong, XTree.window]
  shown := rfl

/-- The child has moved to the new window. -/
private def serverAfter : XServer 1 where
  tree := .node 1 shownWindow [.node 2 shownWindow [], .node 4 shownWindow [.node 3 shownWindow []]]
  shapes := fun _ => ⟨true, none⟩
  unwritten := noWindow
  root_eq := rfl
  root_shown := rfl
  nodup := by decide
  nonzero := by simp [XTree.windows, XTree.subtrees, XTree.subtreesAmong, XTree.window]
  shown := rfl

/-- The new window is mapped, then the child moves, and the window where it was disappears. -/
theorem consistentRuns_move :
    ∃ start display, WebXDisplay.init serverBefore = .ok start ∧
      [.map 4 serverBetween, .reparent 3 4, .updateVisibleWindows serverAfter,
        .unmap 2].foldlM (step 8) start = .ok display ∧
      display.visibleWindows = [4] ∧ display.Consistent := by
  refine ⟨_, _, rfl, rfl, rfl, (consistentRuns 1 8 serverBefore [.map 4 serverBetween,
    .reparent 3 4, .updateVisibleWindows serverAfter, .unmap 2] _ _ rfl ?_).1⟩
  refine .cons ⟨trivial, .inl rfl, ?_⟩ rfl (.cons ⟨(nofun), fun _ => rfl⟩ rfl
    (.cons ⟨trivial, trivial⟩ rfl (.single ⟨(nofun), ?_⟩ rfl)))
  · rintro path hpath
    cases hpath
    -- the new window joins the root window
    refine List.forall_mem_cons.mpr ⟨?_, List.forall_mem_nil _⟩
    decide
  · -- the window has no child any more
    intro v _ hbelow
    obtain ⟨c, ⟨l, hl, hc⟩, -⟩ := TransGen.head'_iff.mp hbelow
    cases hl
    exact nomatch hc

/-- When the child moves before the new window is mapped, it becomes a child of it and stays a child
of the other one. -/
theorem not_consistentRuns : ¬ ConsistentRuns 1 8 fun _ _ => True := by
  intro h
  obtain ⟨hconsistent, -⟩ := h serverBefore [.map 4 serverAfter] _ _ rfl
    (.single ⟨trivial, trivial⟩ rfl)
  obtain ⟨window, hwindow, hparent⟩ :=
    (hconsistent.child_iff_parent (p := 2) (c := 3)).mp ⟨_, rfl, List.mem_cons_self⟩
  cases hwindow
  exact absurd hparent (by decide)

end WebXDisplay

end WebXEngine
