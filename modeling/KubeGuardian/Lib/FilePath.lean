import KubeGuardian.Lib.Delimited

/-!
# File paths

`Join` and `Clean` of Go's `path/filepath` on a Unix system, for a directory and one file name.

* **`join_inj`** — a directory tells apart the names that are single elements, whatever the
  directory is and however much of it `Clean` takes away.
-/

namespace KubeGuardian.Lib.FilePath

/-- One element on top of the elements kept so far, the last one first. -/
def cleanElement (rooted : Bool) (kept : List String) (element : String) : List String :=
  if element = "" ∨ element = "." then kept
  else if element = ".." then
    match kept with
    | [] => if rooted then [] else [".."]
    | top :: below => if top = ".." then ".." :: kept else below
  else element :: kept

/-- What is kept of a path's elements, in the path's order. -/
def cleanElements (rooted : Bool) (elements : List String) : List String :=
  (elements.foldl (cleanElement rooted) []).reverse

def isRooted (path : String) : Bool := path.toList.head? = some '/'

def clean (path : String) : String :=
  let text := (if isRooted path then "/" else "")
    ++ "/".intercalate (cleanElements (isRooted path) (fields '/' path))
  if text = "" then "." else text

/-- `Join(dir, file)`; an empty element is left out. -/
def join (dir file : String) : String :=
  if dir ≠ "" then clean (dir ++ "/" ++ file)
  else if file ≠ "" then clean file
  else ""

/-- A name that `Clean` keeps as it is. -/
structure IsElement (name : String) : Prop where
  ne_empty : name ≠ ""
  ne_dot : name ≠ "."
  ne_dotdot : name ≠ ".."
  noSlash : '/' ∉ name.toList

theorem IsElement.fields {name : String} (h : IsElement name) : fields '/' name = [name] := by
  simp [Lib.fields, List.splitOn_eq_singleton h.noSlash]

theorem fields_append_slash (dir : String) {name : String} (h : IsElement name) :
    fields '/' (dir ++ "/" ++ name) = fields '/' dir ++ [name] := by
  have hself := List.splitOn_eq_singleton h.noSlash
  have hslash : "/".toList = ['/'] := rfl
  unfold Lib.fields
  rw [String.toList_append, String.toList_append, hslash, List.append_assoc, List.singleton_append,
    List.splitOn_append_cons_self, hself]
  simp

theorem cleanElements_snoc (rooted : Bool) (elements : List String) {name : String}
    (h : IsElement name) :
    cleanElements rooted (elements ++ [name]) = cleanElements rooted elements ++ [name] := by
  have hkept : ∀ kept, cleanElement rooted kept name = name :: kept := by
    intro kept
    simp [cleanElement, h.ne_empty, h.ne_dot, h.ne_dotdot]
  unfold cleanElements
  rw [List.foldl_append, List.foldl_cons, List.foldl_nil, hkept, List.reverse_cons]

theorem intercalate_snoc (sep : String) (xs : List String) (x : String) :
    sep.intercalate (xs ++ [x]) = (if xs = [] then "" else sep.intercalate xs ++ sep) ++ x := by
  by_cases hxs : xs = []
  · simp [hxs]
  · simp [hxs, String.intercalate_append_of_ne_nil hxs]

/-- What stands before a name in the directory, the same for every name. -/
theorem exists_join_eq (dir : String) :
    ∃ before, ∀ name, IsElement name → join dir name = before ++ name := by
  by_cases hdir : dir = ""
  · refine ⟨"", fun name h => ?_⟩
    have hrooted : isRooted name = false := by
      unfold isRooted
      cases hlist : name.toList with
      | nil => rfl
      | cons c cs =>
        have hc : c ≠ '/' := fun hc => h.noSlash (by simp [hlist, hc])
        simp [hc]
    have hself : cleanElements false [name] = [name] := cleanElements_snoc false [] h
    simp [join, hdir, h.ne_empty, clean, hrooted, h.fields, hself]
  · -- the first character of the path is the directory's
    have hrooted : ∀ name, isRooted (dir ++ "/" ++ name) = isRooted dir := by
      intro name
      unfold isRooted
      cases hlist : dir.toList with
      | nil => exact absurd (String.toList_eq_nil_iff.mp hlist) hdir
      | cons c cs => simp [hlist]
    let kept := cleanElements (isRooted dir) (fields '/' dir)
    refine ⟨(if isRooted dir then "/" else "")
      ++ (if kept = [] then "" else "/".intercalate kept ++ "/"), fun name h => ?_⟩
    have htext : clean (dir ++ "/" ++ name) = (if isRooted dir then "/" else "")
        ++ ((if kept = [] then "" else "/".intercalate kept ++ "/") ++ name) := by
      unfold clean
      rw [hrooted, fields_append_slash dir h, cleanElements_snoc _ _ h, intercalate_snoc, if_neg]
      simp [h.ne_empty]
    rw [join, if_pos hdir, htext, String.append_assoc]

/-- **Different names are different files of a directory.** -/
theorem join_inj {dir a b : String} (ha : IsElement a) (hb : IsElement b)
    (h : join dir a = join dir b) : a = b := by
  obtain ⟨before, hbefore⟩ := exists_join_eq dir
  rw [hbefore a ha, hbefore b hb, String.append_right_inj] at h
  exact h

example :
    join "./out/../network-policies//" "shop-web.yaml" = "network-policies/shop-web.yaml" := by
  decide

end KubeGuardian.Lib.FilePath
