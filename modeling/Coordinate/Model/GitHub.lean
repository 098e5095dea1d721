import Coordinate.Model.Platform

/-! # The GitHub command line

`github.py` runs `gh` and reads its answers. An answer gives the standard output by what it decodes to;
a blank output has nothing but white space.
-/

namespace Coordinate.GitHub

/-- `subprocess.CompletedProcess`. -/
structure CompletedProcess where
  returncode : Int
  stdout : JsonText
  stderr : String := ""
deriving DecidableEq, Repr

/-- What running a command comes to. -/
inductive Answer where
  | completed (process : CompletedProcess)
  /-- `FileNotFoundError` -/
  | missing
  /-- any other exception, such as the time limit -/
  | raised (error : Exn)
deriving DecidableEq, Repr

/-- `query_pr_head_sha`. -/
def queryPrHeadSha : Answer → Except Exn String
  | .missing => throw (Exn.github ⟨"gh CLI not available", "gh_missing", ""⟩)
  | .raised error => throw error
  | .completed process => do
    raiseIf (process.returncode ≠ 0)
      (Exn.github ⟨s!"gh pr view failed: {process.stderr}", "gh_failed", process.stderr⟩)
    match process.stdout.loads with
    | .error _ => throw (Exn.github ⟨"gh pr view returned invalid JSON", "invalid_json", ""⟩)
    | .ok raw => do
      raiseIf (¬ raw.isObj)
        (Exn.github ⟨"gh pr view returned invalid JSON", "invalid_json", ""⟩)
      match raw.get "headRefOid" with
      | .str headSha => do
        raiseIf (headSha = "")
          (Exn.github ⟨"gh pr view returned no headRefOid", "missing_field", ""⟩)
        return headSha
      | _ => throw (Exn.github ⟨"gh pr view returned no headRefOid", "missing_field", ""⟩)

end Coordinate.GitHub
