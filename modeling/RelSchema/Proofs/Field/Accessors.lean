import RelSchema.Document
import RelSchema.Proofs.Declaration.Jvm

namespace RelSchema.Field

variable {d : Dialect} {f : Field}

theorem fault?_definition_eq_method (hd : d = .java ∨ d = .scala) :
    fault? (f.definition d) = fault? (f.method d) := by
  rcases hd with rfl | rfl
  · exact f.fault?_javaDefinition.trans (f.fault?_accessors .java).symm
  · exact f.fault?_scalaDefinition.trans (f.fault?_accessors .scala).symm

theorem definition_of_jvm (hd : d = .java ∨ d = .scala) :
    f.definition d = (f.member d).map (·.text) := by
  rcases hd with rfl | rfl
  · exact javaDefinition_eq
  · exact scalaDefinition_eq

theorem method_of_jvm (hd : d = .java ∨ d = .scala) :
    f.method d = (f.accessorMethods d).map (·.text) := by
  rcases hd with rfl | rfl <;> exact accessors_eq

theorem typeName_of_member (hd : d = .java ∨ d = .scala) {member : Member}
    (h : f.member d = .ok member) : f.typeName d = .ok member.type := by
  rw [← memberType_eq_typeName hd]
  rcases hd with rfl | rfl
  · obtain ⟨type, htype, rfl⟩ := map_eq_ok_iff.1 h
    exact htype
  · obtain ⟨type, htype, rfl⟩ := map_eq_ok_iff.1 h
    exact htype

theorem accessorMethods_of_member (hd : d = .java ∨ d = .scala) {member : Member}
    (h : f.member d = .ok member) :
    ∃ methods, f.accessorMethods d = .ok methods ∧ methods.getter.type = member.type ∧
      methods.setter.type = member.type ∧
      methods.getter.member = Text.camelCase f.spec.name ∧
      methods.setter.member = Text.camelCase f.spec.name := by
  have hname : f.name d = f.spec.name := by rcases hd with rfl | rfl <;> rfl
  refine ⟨_, by rw [accessorMethods, typeName_of_member hd h]; rfl, rfl, rfl, ?_, ?_⟩
  · exact congrArg Text.camelCase hname
  · exact congrArg Text.camelCase hname

theorem name_of_member (hd : d = .java ∨ d = .scala) {member : Member}
    (h : f.member d = .ok member) :
    member.name = if d = .scala ∧ f.isPk = true then f.spec.name
      else Text.camelCase f.spec.name := by
  rcases hd with rfl | rfl
  · obtain ⟨type, _, rfl⟩ := map_eq_ok_iff.1 h
    exact (if_neg fun h => Dialect.noConfusion h.1).symm
  · obtain ⟨type, _, rfl⟩ := map_eq_ok_iff.1 h
    simp only [scalaMember, name, true_and]

/-- A member and its methods are at fault alike and have one type, and the methods read and write
the member that is declared, unless it is the primary key of a Scala class and its name is not in
camel case. -/
theorem accessors_fit_iff (f : Field) {d : Dialect} (hd : d = .java ∨ d = .scala) :
    fault? (f.definition d) = fault? (f.method d) ∧
      ∀ line, f.definition d = .ok line → ∃ member methods, f.member d = .ok member ∧
        line = member.text ∧ f.accessorMethods d = .ok methods ∧ f.method d = .ok methods.text ∧
        methods.getter.type = member.type ∧ methods.setter.type = member.type ∧
        (methods.getter.member = member.name ∧ methods.setter.member = member.name ↔
          (d = .scala → f.isPk = true → Text.camelCase f.spec.name = f.spec.name)) := by
  refine ⟨fault?_definition_eq_method hd, fun line hline => ?_⟩
  rw [definition_of_jvm hd] at hline
  obtain ⟨member, hmember, rfl⟩ := map_eq_ok_iff.1 hline
  obtain ⟨methods, hmethods, hgetter, hsetter, hread, hwritten⟩ :=
    accessorMethods_of_member hd hmember
  refine ⟨member, methods, hmember, rfl, hmethods, by rw [method_of_jvm hd, hmethods]; rfl,
    hgetter, hsetter, ?_⟩
  rw [hread, hwritten, name_of_member hd hmember, and_self]
  split
  · rename_i hkey
    exact ⟨fun h _ _ => h, fun h => h hkey.1 hkey.2⟩
  · rename_i hkey
    exact iff_of_true rfl fun hscala hpk => absurd ⟨hscala, hpk⟩ hkey

/-- Users, whose primary key has this name. -/
def users (key : String) : Document where
  models := [
    { name := "user"
      fields := [[("name", .text key), ("type", .text "int"), ("index", .text "pk")],
        [("name", .text "first_name"), ("type", .text "str"), ("length", .int 20)]] }]

theorem accessors_fit_iff_users :
    ∃ s, (users "id").toSchema {} "schema" = .ok s ∧ ∃ m ∈ s.models, m.fields.length = 2 ∧
      ∀ f ∈ m.fields, ∃ member methods, f.member .scala = .ok member ∧
        f.accessorMethods .scala = .ok methods ∧ methods.getter.type = member.type ∧
        methods.getter.member = member.name ∧ methods.setter.member = member.name := by
  obtain ⟨s, hs, m, hm, hlength, hnames⟩ := exists_eq_ok_of_any
    (x := (users "id").toSchema {} "schema")
    (p := fun s => ∃ m ∈ s.models, m.fields.length = 2 ∧ ∀ f ∈ m.fields,
      fault? (f.definition .scala) = none ∧
        (f.isPk = true → Text.camelCase f.spec.name = f.spec.name)) (by decide +kernel)
  refine ⟨s, hs, m, hm, hlength, fun f hf => ?_⟩
  obtain ⟨line, hline⟩ := fault?_eq_none_iff.1 (hnames f hf).1
  obtain ⟨member, methods, hmember, _, hmethods, _, htype, _, hiff⟩ :=
    (accessors_fit_iff f (.inr rfl)).2 line hline
  exact ⟨member, methods, hmember, hmethods, htype, hiff.2 fun _ => (hnames f hf).2⟩

/-- A key of two words is declared by its own name, and its methods look for another one. -/
theorem accessors_misfit_users :
    ∃ s, (users "user_id").toSchema {} "schema" = .ok s ∧ ∃ m ∈ s.models, ∃ f ∈ m.fields,
      (∃ line, f.definition .scala = .ok line ∧ line = bodyLines ["@Id",
        "@GeneratedValue(strategy = GenerationType.IDENTITY)", "@BeanProperty",
        "var user_id: Integer = _", "\n"]) ∧
      (∃ line, f.method .scala = .ok line ∧ line = bodyLines [
        "public Integer getUserId() \x7b", "    return this.userId;", "\x7d", "\n",
        "public void setUserId(Integer user_id) \x7b", "    this.userId = user_id;", "\x7d",
        "\n"]) ∧
      ∃ member, f.member .scala = .ok member ∧ ∃ methods, f.accessorMethods .scala = .ok methods ∧
        methods.getter.member ≠ member.name ∧ methods.setter.member ≠ member.name := by
  obtain ⟨s, hs, m, hm, f, hf, hdefinition, hmethod, hmember⟩ := exists_eq_ok_of_any
    (x := (users "user_id").toSchema {} "schema")
    (p := fun s => ∃ m ∈ s.models, ∃ f ∈ m.fields,
      (f.definition .scala).toOption.any (fun line => decide (line = bodyLines ["@Id",
        "@GeneratedValue(strategy = GenerationType.IDENTITY)", "@BeanProperty",
        "var user_id: Integer = _", "\n"])) = true ∧
      (f.method .scala).toOption.any (fun line => decide (line = bodyLines [
        "public Integer getUserId() \x7b", "    return this.userId;", "\x7d", "\n",
        "public void setUserId(Integer user_id) \x7b", "    this.userId = user_id;", "\x7d",
        "\n"])) = true ∧
      (f.member .scala).toOption.any (fun member => decide
        ((f.accessorMethods .scala).toOption.any (fun methods => decide
          (methods.getter.member ≠ member.name ∧ methods.setter.member ≠ member.name)) = true)) =
            true) (by decide +kernel)
  obtain ⟨member, hmember, hmethods⟩ := exists_eq_ok_of_any hmember
  exact ⟨s, hs, m, hm, f, hf, exists_eq_ok_of_any hdefinition, exists_eq_ok_of_any hmethod, member,
    hmember, exists_eq_ok_of_any hmethods⟩

end RelSchema.Field
