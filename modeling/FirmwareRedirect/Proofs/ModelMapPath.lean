import FirmwareRedirect.Config.Settings
/-!
# Where the model map is read from

The model map path of the settings may start at the home directory. Main statement: with the
home directory known, `~` is that directory and `~/rest` is `rest` joined to it; every other
path, and every path while the home directory is unknown, is used as given. Joining keeps an
absolute `rest`, and puts one separator between a non-empty directory that does not end in one
and `rest`.
-/

namespace FirmwareRedirect

/-- The model map path, case by case, with the join rule. -/
theorem stockModelMapPath_home (s : Settings) :
    (∀ h, s.models.stockModelMap = "~" → s.stockModelMapPath (some h) = h) ∧
    (∀ h r, s.models.stockModelMap = "~/" ++ r → s.stockModelMapPath (some h) = joinPath h r) ∧
    (∀ home, (home = none ∨ (s.models.stockModelMap ≠ "~" ∧
        ∀ r, s.models.stockModelMap ≠ "~/" ++ r)) →
      s.stockModelMapPath home = s.models.stockModelMap) ∧
    (∀ h r, joinPath h r =
      if r.startsWith "/" then r else h ++ (if h ≠ "" ∧ ¬ h.endsWith "/" then "/" else "") ++ r) := by
  refine ⟨fun h hp => ?_, fun h r hp => ?_, fun home hp => ?_, joinPath_eq⟩
  · simp only [Settings.stockModelMapPath, hp, homeRelative_tilde]
  · simp only [Settings.stockModelMapPath, hp, homeRelative_tilde_slash]
  · rcases hp with rfl | ⟨h1, h2⟩
    · exact homeRelative_none _
    · cases home with
      | none => exact homeRelative_none _
      | some h => exact homeRelative_other _ h h1 h2

/-- A path that starts with `~` and a user name is not taken from the home directory. -/
theorem stockModelMapPath_tilde_user :
    ("~user/m.yaml" ≠ "~" ∧ ∀ r, "~user/m.yaml" ≠ "~/" ++ r) ∧
    ({ models := { stockModelMap := "~user/m.yaml" } } : Settings).stockModelMapPath
      (some "/home/a") = "~user/m.yaml" := by
  have hyp : "~user/m.yaml" ≠ "~" ∧ ∀ r, "~user/m.yaml" ≠ "~/" ++ r := by
    refine ⟨by decide, fun r h => ?_⟩
    have e := congrArg String.toList h
    rw [toList_tilde_slash,
      show "~user/m.yaml".toList = ['~', 'u', 's', 'e', 'r', '/', 'm', '.', 'y', 'a', 'm', 'l'] by
        decide] at e
    simp at e
  exact ⟨hyp, (stockModelMapPath_home _).2.2.1 (some "/home/a") (.inr hyp)⟩

end FirmwareRedirect
