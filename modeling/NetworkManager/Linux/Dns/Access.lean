import NetworkManager.Linux.Host

/-!
# Linux — Dns — Access

What the manager does over a file whose reads answer from a part of the world (`Answers`).  The two
reads of `apply` then say the same, so that a file is refused as `Item.refusesOwner` has it.
-/

namespace NetworkManager

open Effects

/-- Reads answer from what `view` shows, and change nothing. -/
structure ManagedFile.Answers {W : Type} (file : ManagedFile W) (view : W → ResolvConf) : Prop where
  text : ∀ {w content}, view w = .text content → file.readToString w = .ok content w
  absent : ∀ {w}, view w = .absent → ∃ e : IoError,
    e.kind = .notFound ∧ file.readToString w = .error e w
  undecodable : ∀ {w bytes}, view w = .undecodable bytes → ∃ e : IoError,
    e.kind ≠ .notFound ∧ file.readToString w = .error e w

namespace LinuxDnsManager

variable {W : Type} {file : ManagedFile W} {view : W → ResolvConf} {w : W} {content owner : String}
  {bytes : List UInt8}

/-- The owner of a text is read. -/
theorem readOwner_of_text (h : file.Answers view) (hw : view w = .text content) :
    readOwner file w = .ok (parseOwner content) w :=
  bind_of_ok (attempt_of_ok (h.text hw))

/-- A file that is not there has no owner. -/
theorem readOwner_of_absent (h : file.Answers view) (hw : view w = .absent) :
    readOwner file w = .ok none w := by
  obtain ⟨e, hkind, hread⟩ := h.absent hw
  refine (bind_of_ok (attempt_of_error hread)).trans ?_
  simp only [if_pos hkind]
  rfl

/-- A file that is no text cannot be read. -/
theorem readOwner_of_undecodable (h : file.Answers view) (hw : view w = .undecodable bytes) :
    ∃ e, readOwner file w = .error (.io e) w := by
  obtain ⟨e, hkind, hread⟩ := h.undecodable hw
  refine ⟨e, (bind_of_ok (attempt_of_error hread)).trans ?_⟩
  simp only [if_neg hkind]
  rfl

/-! ### Who may write the file -/

/-- A text is checked by its owner. -/
theorem checkOwner_of_text (h : file.Answers view) (hw : view w = .text content)
    (owner : String) : checkOwner file owner w =
      if Item.refusesOwner owner (.text content) then .error (.foreignManaged file.path) w
      else .ok () w := by
  refine (bind_of_ok (readOwner_of_text h hw)).trans ?_
  cases hp : parseOwner content with
  | some existing =>
      simp only [Item.refusesOwner, hp, decide_eq_true_eq]
      split <;> rfl
  | none =>
      simp only [Item.refusesOwner, hp]
      refine (bind_of_ok (attempt_of_ok (h.text hw))).trans ?_
      dsimp only
      split <;> rfl

theorem checkOwner_of_absent (h : file.Answers view) (hw : view w = .absent) (owner : String) :
    checkOwner file owner w = .ok () w := by
  obtain ⟨e, -, hread⟩ := h.absent hw
  exact (bind_of_ok (readOwner_of_absent h hw)).trans (bind_of_ok (attempt_of_error hread))

/-- A file that is no text fails the check. -/
theorem checkOwner_of_undecodable (h : file.Answers view) (hw : view w = .undecodable bytes)
    (owner : String) : ∃ e, checkOwner file owner w = .error (.io e) w := by
  obtain ⟨e, he⟩ := readOwner_of_undecodable h hw
  exact ⟨e, bind_of_error he⟩

/-- A file that is refused fails the check. -/
theorem checkOwner_of_refused (h : file.Answers view)
    (hr : Item.refusesOwner owner (view w) = true) :
    ∃ e, checkOwner file owner w = .error e w := by
  obtain ⟨conf, hconf⟩ : ∃ conf, view w = conf := ⟨_, rfl⟩
  rw [hconf] at hr
  cases conf with
  | absent => cases hr
  | text content => exact ⟨_, (checkOwner_of_text h hconf owner).trans (if_pos hr)⟩
  | undecodable bytes =>
      obtain ⟨e, he⟩ := checkOwner_of_undecodable h hconf owner
      exact ⟨_, he⟩

/-- A file that is allowed passes the check. -/
theorem checkOwner_of_allowed (h : file.Answers view)
    (hr : Item.refusesOwner owner (view w) = false) : checkOwner file owner w = .ok () w := by
  obtain ⟨conf, hconf⟩ : ∃ conf, view w = conf := ⟨_, rfl⟩
  rw [hconf] at hr
  cases conf with
  | absent => exact checkOwner_of_absent h hconf owner
  | text content =>
      rw [checkOwner_of_text h hconf, hr]
      rfl
  | undecodable bytes => cases hr

/-! ### Who may remove it -/

/-- A text is removed by its owner, left if it has none, and refused if it has another. -/
theorem remove_of_text (h : file.Answers view) (hw : view w = .text content) (o : DnsOwnership) :
    remove file o w =
      if parseOwner content = some o.owner then .ok () (after file.removeFile w)
      else if parseOwner content = none then .ok () w
      else .error (.foreignManaged file.path) w := by
  refine (bind_of_ok (readOwner_of_text h hw)).trans ?_
  cases parseOwner content with
  | none => rfl
  | some existing =>
      simp only [Option.some.injEq, reduceCtorEq, if_false]
      split
      · obtain ⟨r, hr⟩ : ∃ r, (attempt file.removeFile : EStateM DnsError W _) w =
            .ok r (after file.removeFile w) := attempt_apply _ w
        exact bind_of_ok hr
      · rfl

/-- There is nothing to remove. -/
theorem remove_of_absent (h : file.Answers view) (hw : view w = .absent) (o : DnsOwnership) :
    remove file o w = .ok () w :=
  bind_of_ok (readOwner_of_absent h hw)

/-- A file that is no text cannot be removed. -/
theorem remove_of_undecodable (h : file.Answers view) (hw : view w = .undecodable bytes)
    (o : DnsOwnership) : ∃ e, remove file o w = .error (.io e) w := by
  obtain ⟨e, he⟩ := readOwner_of_undecodable h hw
  exact ⟨e, bind_of_error he⟩

end LinuxDnsManager

end NetworkManager
