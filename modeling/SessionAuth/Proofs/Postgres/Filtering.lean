import SessionAuth.Proofs.Postgres.Pattern

/-!
# The server selects whom the filter selects

A filter is applied in two ways: by `UserFilter.selects` to a user at hand, and by the server to its
rows, from a statement with placeholders and the parameters that they stand for.  In the first the
lower-case email is searched for the lower-case text; in the second it is matched with a pattern.

The server is a parameter here.  `Server` has the functions that the statements call, and
`IsDocumented` says what is known of them.  How the tests of a statement are read is fixed:
`tests` reads them from the text, with the numbers of their placeholders, and `Server.passes?` looks
these up among the parameters.  A statement whose text or parameters are not of this kind selects
nobody, nor does it refuse anybody.

`filters_agree` is about both statements of `listUsers`, the one that counts and the one that
lists: from either of them the server selects exactly the users that the filter selects.
-/

set_option autoImplicit false

namespace SessionAuth
namespace Postgres

open Text

/-! ## The server -/

/-- The functions of a server that statements about users call. -/
structure Server where
  /-- The text in lower case, `LOWER`. -/
  lower : String → String
  /-- Whether a text matches a pattern, `LIKE`. -/
  like : String → String → Bool
  /-- The text of a value of the column of roles. -/
  roleText : Role → String
  /-- The text of a value of the column of statuses. -/
  statusText : Status → String

/-- What is known of these functions.  Of patterns that cannot be read nothing is known. -/
structure Server.IsDocumented (server : Server) : Prop where
  lower_eq : ∀ s, server.lower s = lowercase s
  like_eq : ∀ {pattern : String} {ps : List Piece}, pieces? pattern.toList = some ps →
    ∀ s, server.like s pattern = isMatch ps s.toList
  roleText_eq : ∀ role, server.roleText role = role.name
  statusText_eq : ∀ status, server.statusText status = status.name

/-! ## Reading the tests of a statement -/

/-- What is tested of a row, with the number of the placeholder for what it is compared to. -/
inductive Test where
  | emailLike (n : Nat)
  | roleAmong (n : Nat)
  | statusAmong (n : Nat)
  deriving DecidableEq, Repr

/-- Whether a character is a decimal digit. -/
def isDigit (c : Char) : Bool := (digitValue? c).isSome

/-- The number of the placeholder at the start of a text, and what follows the placeholder. -/
def placeholder? : List Char → Option (Nat × List Char)
  | '$' :: cs => (readDigits? (cs.takeWhile isDigit)).map fun n => (n, cs.dropWhile isDigit)
  | _ => none

/-- The test with the placeholder that stands between two texts at the start of another, and what
follows them. -/
def testBetween? (before after : String) (test : Nat → Test) (cs : List Char) :
    Option (Test × List Char) :=
  (stripStart before.toList cs).bind fun cs =>
    (placeholder? cs).bind fun (n, cs) => (stripStart after.toList cs).map fun cs => (test n, cs)

/-- The test at the start of a text, and what follows it. -/
def test? (cs : List Char) : Option (Test × List Char) :=
  (testBetween? " AND LOWER(email) LIKE " "" .emailLike cs).or
    ((testBetween? " AND role::text = ANY(" ")" .roleAmong cs).or
      (testBetween? " AND status::text = ANY(" ")" .statusAmong cs))

theorem length_of_placeholder? {cs rest : List Char} {n : Nat}
    (h : placeholder? cs = some (n, rest)) : rest.length < cs.length := by
  unfold placeholder? at h
  split at h
  · obtain ⟨m, -, heq⟩ := Option.map_eq_some_iff.1 h
    cases heq
    exact Nat.lt_succ_of_le (List.dropWhile_sublist _).length_le
  · cases h

theorem length_of_testBetween? {before after : String} {test : Nat → Test}
    {cs rest : List Char} {t : Test} (h : testBetween? before after test cs = some (t, rest)) :
    rest.length < cs.length := by
  obtain ⟨inner, hinner, h⟩ := Option.bind_eq_some_iff.1 h
  obtain ⟨⟨n, outer⟩, houter, h⟩ := Option.bind_eq_some_iff.1 h
  obtain ⟨last, hlast, heq⟩ := Option.map_eq_some_iff.1 h
  cases heq
  have hlength := length_of_placeholder? houter
  rw [stripStart_eq_some_iff] at hinner hlast
  simp only [hinner, hlast, List.length_append] at hlength ⊢
  omega

theorem length_of_test? {cs rest : List Char} {t : Test} (h : test? cs = some (t, rest)) :
    rest.length < cs.length := by
  rw [test?, Option.or_eq_some_iff, Option.or_eq_some_iff] at h
  obtain h | ⟨-, h | ⟨-, h⟩⟩ := h <;> exact length_of_testBetween? h

/-- The tests at the start of a text, as many as there are, and what follows them. -/
def tests (cs : List Char) : List Test × List Char :=
  match _ : test? cs with
  | none => ([], cs)
  | some (t, rest) => (t :: (tests rest).1, (tests rest).2)
termination_by cs.length
decreasing_by all_goals exact length_of_test? ‹_›

theorem tests_of_eq_none {cs : List Char} (h : test? cs = none) : tests cs = ([], cs) := by
  rw [tests]
  split <;> simp_all

theorem tests_of_eq_some {cs rest : List Char} {t : Test} (h : test? cs = some (t, rest)) :
    tests cs = (t :: (tests rest).1, (tests rest).2) := by
  conv_lhs => rw [tests]
  split <;> simp_all

/-- What follows the words that begin the tests of a statement. -/
def restrictions? : List Char → Option (List Char)
  | [] => none
  | c :: cs => (stripStart " WHERE TRUE".toList (c :: cs)).or (restrictions? cs)

/-- The tests of a statement, if there is nothing after them but the order of the rows. -/
def Statement.tests? (s : Statement) : Option (List Test) :=
  ((restrictions? s.text.toList).map tests).bind fun (ts, rest) =>
    if rest.isEmpty || startsWith " ORDER BY ".toList rest then some ts else none

/-! ## Making the tests -/

/-- What a placeholder stands for; they are numbered from one. -/
def parameter? (parameters : List Parameter) : Nat → Option Parameter
  | 0 => none
  | n + 1 => parameters[n]?

/-- Whether the row of a user passes a test, if the parameter is of the kind that the test needs. -/
def Server.passes? (server : Server) (parameters : List Parameter) (u : User) : Test → Option Bool
  | .emailLike n =>
    match parameter? parameters n with
    | some (.text pattern) => some (server.like (server.lower u.email) pattern)
    | _ => none
  | .roleAmong n =>
    match parameter? parameters n with
    | some (.texts names) => some (names.contains (server.roleText u.role))
    | _ => none
  | .statusAmong n =>
    match parameter? parameters n with
    | some (.texts names) => some (names.contains (server.statusText u.status))
    | _ => none

/-- Whether the row of a user passes all tests of a statement. -/
def Server.selects? (server : Server) (s : Statement) (u : User) : Option Bool :=
  s.tests?.bind fun ts =>
    (ts.mapM (server.passes? s.parameters u)).map fun results => results.all id

/-! ## The tests that a filter is turned into -/

/-- The test that a condition is written as. -/
def Condition.test (n : Nat) : Condition → Test
  | emailLike _ => .emailLike n
  | roleAmong _ => .roleAmong n
  | statusAmong _ => .statusAmong n

/-- The tests that conditions are written as, with their placeholders numbered from `n` on. -/
def numbered (n : Nat) : List Condition → List Test
  | [] => []
  | c :: cs => c.test n :: numbered (n + 1) cs

/-- Whether a text does not continue a number that is written in front of it. -/
def EndsNumber (cs : List Char) : Prop := ∀ c ∈ cs.head?, isDigit c = false

theorem endsNumber_nil : EndsNumber [] := nofun

theorem endsNumber_cons {c : Char} (h : isDigit c = false) (cs : List Char) :
    EndsNumber (c :: cs) := by
  intro d hd
  rwa [← Option.some.inj hd]

theorem placeholder?_placeholder (n : Nat) {rest : List Char} (h : EndsNumber rest) :
    placeholder? ((placeholder n).toList ++ rest) = some (n, rest) := by
  have hdigits : ∀ c ∈ writeDigits n, isDigit c = true := fun c => isDigit_of_mem_writeDigits
  have htake : rest.takeWhile isDigit = [] ∧ rest.dropWhile isDigit = rest := by
    cases rest with
    | nil => exact ⟨rfl, rfl⟩
    | cons c cs => simp [h c rfl]
  have htext : (placeholder n).toList ++ rest = '$' :: (writeDigits n ++ rest) := by
    rw [placeholder, writeNat, String.toList_append, String.toList_ofList (l := writeDigits n)]
    rfl
  rw [htext]
  show (readDigits? ((writeDigits n ++ rest).takeWhile isDigit)).map _ = _
  rw [List.takeWhile_append_of_pos hdigits, List.dropWhile_append_of_pos hdigits, htake.1, htake.2,
    List.append_nil, readDigits?_writeDigits]
  rfl

theorem testBetween?_placeholder (before after : String) (test : Nat → Test) (n : Nat)
    {rest : List Char} (h : EndsNumber (after.toList ++ rest)) :
    testBetween? before after test ((before ++ placeholder n ++ after).toList ++ rest) =
      some (test n, rest) := by
  simp only [String.toList_append, List.append_assoc, testBetween?]
  rw [stripStart_eq_some_iff.2 rfl, Option.bind_some, placeholder?_placeholder n h,
    Option.bind_some, stripStart_eq_some_iff.2 rfl]
  rfl

theorem testBetween?_of_stripStart {before : String} {cs : List Char}
    (h : stripStart before.toList cs = none) (after : String) (test : Nat → Test) :
    testBetween? before after test cs = none := by
  rw [testBetween?, h]
  rfl

/-- A condition is read back as its test. -/
theorem test?_text (n : Nat) (c : Condition) {rest : List Char} (h : EndsNumber rest) :
    test? ((c.text n).toList ++ rest) = some (c.test n, rest) := by
  cases c with
  | emailLike pattern =>
    have hread : testBetween? " AND LOWER(email) LIKE " "" .emailLike
        ((" AND LOWER(email) LIKE " ++ placeholder n ++ "").toList ++ rest) =
          some (.emailLike n, rest) := testBetween?_placeholder _ "" .emailLike n h
    rw [String.append_empty] at hread
    show test? ((" AND LOWER(email) LIKE " ++ placeholder n).toList ++ rest) = _
    rw [test?, hread]
    rfl
  | roleAmong names =>
    have hread := testBetween?_placeholder " AND role::text = ANY(" ")" .roleAmong n
      (endsNumber_cons (c := ')') rfl rest)
    show test? ((" AND role::text = ANY(" ++ placeholder n ++ ")").toList ++ rest) = _
    rw [test?, hread, testBetween?_of_stripStart]
    · rfl
    · simp only [String.toList_append, List.append_assoc]
      rfl
  | statusAmong names =>
    have hread := testBetween?_placeholder " AND status::text = ANY(" ")" .statusAmong n
      (endsNumber_cons (c := ')') rfl rest)
    show test? ((" AND status::text = ANY(" ++ placeholder n ++ ")").toList ++ rest) = _
    rw [test?, hread, testBetween?_of_stripStart, testBetween?_of_stripStart]
    · rfl
    all_goals
      simp only [String.toList_append, List.append_assoc]
      rfl

theorem endsNumber_append {s : String} {c : Char} {cs : List Char} (hs : s.toList = c :: cs)
    (hc : isDigit c = false) (t : String) (rest : List Char) :
    EndsNumber ((s ++ t).toList ++ rest) := by
  rw [String.toList_append, hs]
  exact endsNumber_cons hc _

theorem endsNumber_text (n : Nat) (c : Condition) (rest : List Char) :
    EndsNumber ((c.text n).toList ++ rest) := by
  cases c with
  | emailLike pattern => exact endsNumber_append rfl rfl (placeholder n) rest
  | roleAmong names =>
    have h := endsNumber_append (s := " AND role::text = ANY(") rfl rfl (placeholder n ++ ")") rest
    rwa [← String.append_assoc] at h
  | statusAmong names =>
    have h := endsNumber_append (s := " AND status::text = ANY(") rfl rfl (placeholder n ++ ")") rest
    rwa [← String.append_assoc] at h

/-- Conditions are read back as their tests, up to where the tests end. -/
theorem tests_writeConditions (n : Nat) (cs : List Condition) {rest : List Char}
    (hdigit : EndsNumber rest) (hrest : test? rest = none) :
    tests ((writeConditions n cs).toList ++ rest) = (numbered n cs, rest) := by
  induction cs generalizing n with
  | nil => exact tests_of_eq_none hrest
  | cons c cs ih =>
    have hnext : EndsNumber ((writeConditions (n + 1) cs).toList ++ rest) := by
      cases cs with
      | nil => exact hdigit
      | cons c cs =>
        rw [writeConditions, String.toList_append, List.append_assoc]
        exact endsNumber_text _ c _
    rw [writeConditions, String.toList_append, List.append_assoc,
      tests_of_eq_some (test?_text n c hnext), ih, numbered]

theorem tests?_countStatement (f : UserFilter) :
    (countStatement f).tests? = some (numbered 1 (conditions f)) := by
  have hwhere : restrictions? (countStatement f).text.toList =
      some ((writeConditions 1 (conditions f)).toList ++ []) := by
    show restrictions?
      ("SELECT COUNT(*) FROM users WHERE TRUE" ++ writeConditions 1 (conditions f)).toList = _
    rw [String.toList_append, List.append_nil]
    rfl
  rw [Statement.tests?, hwhere, Option.map_some,
    tests_writeConditions 1 (conditions f) endsNumber_nil rfl]
  rfl

theorem tests?_listStatement (f : UserFilter) (page : PageRequest) :
    (listStatement f page).tests? = some (numbered 1 (conditions f)) := by
  let order := " ORDER BY created_at DESC, id DESC LIMIT " ++
    (placeholder ((conditions f).length + 1) ++ (" OFFSET " ++
      placeholder ((conditions f).length + 2)))
  have hwhere : restrictions? (listStatement f page).text.toList =
      some ((writeConditions 1 (conditions f)).toList ++ order.toList) := by
    show restrictions? ("SELECT " ++ userColumns ++ " FROM users WHERE TRUE" ++
      writeConditions 1 (conditions f) ++ " ORDER BY created_at DESC, id DESC LIMIT " ++
      placeholder ((conditions f).length + 1) ++ " OFFSET " ++
      placeholder ((conditions f).length + 2)).toList = _
    simp only [order, String.toList_append, List.append_assoc]
    rfl
  have horder : order.toList = " ORDER BY created_at DESC, id DESC LIMIT ".toList ++
      (placeholder ((conditions f).length + 1) ++ (" OFFSET " ++
        placeholder ((conditions f).length + 2))).toList := String.toList_append
  have hdigit : EndsNumber order.toList := by
    rw [horder]
    exact endsNumber_cons (c := ' ') rfl _
  have hrest : test? order.toList = none := by
    rw [horder]
    rfl
  rw [Statement.tests?, hwhere, Option.map_some, tests_writeConditions 1 _ hdigit hrest, horder]
  rfl

/-! ## What the tests say -/

/-- Whether a condition holds of the row of a user. -/
def Server.holds (server : Server) (u : User) : Condition → Bool
  | .emailLike pattern => server.like (server.lower u.email) pattern
  | .roleAmong names => names.contains (server.roleText u.role)
  | .statusAmong names => names.contains (server.statusText u.status)

theorem passes?_test (server : Server) (u : User) (c : Condition)
    (before after : List Parameter) :
    server.passes? (before ++ c.parameter :: after) u (c.test (before.length + 1)) =
      some (server.holds u c) := by
  have hparameter : parameter? (before ++ c.parameter :: after) (before.length + 1) =
      some c.parameter := by
    simp [parameter?]
  cases c <;> simp only [Condition.test, Server.passes?, hparameter] <;> rfl

/-- Each test finds the parameter of its condition, whatever other parameters there are around
those of the conditions. -/
theorem mapM_passes?_numbered (server : Server) (u : User) (cs : List Condition)
    (before after : List Parameter) :
    (numbered (before.length + 1) cs).mapM
        (server.passes? (before ++ cs.map Condition.parameter ++ after) u) =
      some (cs.map (server.holds u)) := by
  induction cs generalizing before with
  | nil => rfl
  | cons c cs ih =>
    have hrest := ih (before ++ [c.parameter])
    rw [List.length_append, List.length_singleton, List.append_assoc before] at hrest
    rw [numbered, List.mapM_cons, List.map_cons, List.append_assoc, List.cons_append, passes?_test]
    simp only [List.cons_append, List.nil_append, List.append_assoc] at hrest
    rw [hrest]
    rfl

theorem contains_map {α : Type} [DecidableEq α] {g : α → String} (hg : Function.Injective g)
    (as : List α) (a : α) : (as.map g).contains (g a) = as.contains a := by
  rw [Bool.eq_iff_iff, List.contains_iff_mem, List.contains_iff_mem, List.mem_map_of_injective hg]

theorem all_unless (b : Bool) (p : Condition → Bool) (c : Condition) :
    ((if b then [] else [c]).map p).all id = (b || p c) := by
  cases b <;> simp

/-- The conditions that a filter is turned into hold of the users that it selects. -/
theorem all_holds_conditions {server : Server} (h : server.IsDocumented) (f : UserFilter)
    (u : User) : ((conditions f).map (server.holds u)).all id = f.selects u := by
  have hsearch : ∀ needle, server.like (server.lower u.email) (patternContaining needle) =
      contains needle.toList (lowercase u.email).toList := by
    intro needle
    have hread := pieces?_patternContaining needle
    rw [h.like_eq hread, h.lower_eq, isMatch_patternContaining hread]
  have hrole : (f.roles.map Role.name).contains (server.roleText u.role) =
      f.roles.contains u.role := by
    rw [h.roleText_eq, contains_map Role.name_injective]
  have hstatus : (f.statuses.map Status.name).contains (server.statusText u.status) =
      f.statuses.contains u.status := by
    rw [h.statusText_eq, contains_map Status.name_injective]
  simp only [conditions, List.map_append, List.all_append, all_unless, UserFilter.selects]
  congr 1
  · congr 1
    · cases f.needle? with
      | none => rfl
      | some needle => exact (Bool.and_true _).trans (hsearch (lowercase needle))
    · exact congrArg _ hrole
  · exact congrArg _ hstatus

theorem selects?_of_tests {server : Server} (h : server.IsDocumented) {s : Statement}
    {f : UserFilter} {others : List Parameter} (htests : s.tests? = some (numbered 1 (conditions f)))
    (hparameters : s.parameters = (conditions f).map Condition.parameter ++ others) (u : User) :
    server.selects? s u = some (f.selects u) := by
  have hpasses : (numbered 1 (conditions f)).mapM (server.passes? s.parameters u) =
      some ((conditions f).map (server.holds u)) :=
    hparameters ▸ mapM_passes?_numbered server u (conditions f) [] others
  rw [Server.selects?, htests, Option.bind_some, hpasses, Option.map_some, all_holds_conditions h]

/-- **The server selects whom the filter selects.**  From the statement that counts and from the
one that lists, with the parameters that go with it, a server selects exactly the users that the
filter selects. -/
theorem filters_agree {server : Server} (h : server.IsDocumented) (f : UserFilter)
    (page : PageRequest) (u : User) :
    server.selects? (countStatement f) u = some (f.selects u) ∧
      server.selects? (listStatement f page) u = some (f.selects u) :=
  ⟨selects?_of_tests h (tests?_countStatement f) (List.append_nil _).symm u,
    selects?_of_tests h (tests?_listStatement f page) rfl u⟩

/-! ### A search for wildcards -/

namespace Wildcards

/-- A server that works as documented and to which no text is like a pattern that cannot be read. -/
def server : Server where
  lower := lowercase
  like s pattern := ((pieces? pattern.toList).map fun ps => isMatch ps s.toList).getD false
  roleText := Role.name
  statusText := Status.name

/-- A search for three characters that have a meaning in patterns. -/
def filter : UserFilter := ⟨some " A%_\\ ", [.client, .operator], []⟩

/-- A user with a given email. -/
def user (email : String) : User :=
  ⟨⟨1⟩, email, "", .client, .active, .ofSeconds 0, .ofSeconds 0⟩

theorem isDocumented_server : server.IsDocumented where
  lower_eq _ := rfl
  like_eq h s := by
    show (Option.map _ _).getD false = _
    rw [h]
    rfl
  roleText_eq _ := rfl
  statusText_eq _ := rfl

end Wildcards

open Wildcards in
/-- The characters are found as they are, and stand for nothing else. -/
theorem filters_agree_wildcards :
    server.selects? (countStatement filter) (user "ba%_\\@example.com") = some true ∧
      server.selects? (listStatement filter .default) (user "abc\\@example.com") = some false := by
  have hfound : filter.selects (user "ba%_\\@example.com") = true := by decide +kernel
  have hother : filter.selects (user "abc\\@example.com") = false := by decide +kernel
  have hcount := (filters_agree isDocumented_server filter .default (user "ba%_\\@example.com")).1
  have hlist := (filters_agree isDocumented_server filter .default (user "abc\\@example.com")).2
  rw [hfound] at hcount
  rw [hother] at hlist
  exact ⟨hcount, hlist⟩

end Postgres
end SessionAuth
