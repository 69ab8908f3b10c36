import ModuleLint.Script.Form

/-
  The grammar of scripts.

  The three dialects share one grammar; forms that only some
  of them have are guarded by a test of the dialect.  Kinds and
  fields of the nodes are those that editors and linters of
  these languages commonly use.

  Key definitions include:
    * `Symbol`
    * `Grammar.rule`
-/

namespace ModuleLint

namespace Script

/- The nonterminals. -/
inductive Symbol where
  | program
  | statement
  | declaration
  | statementBlock
  | decorator
  | classDeclaration
  | classHeritage
  | classBody
  | methodDefinition
  | formalParameters
  | callSignature
  | resultType
  | expression
  | expressions
  | arrowFunction
  | conditional
  | operand
  | unary
  | chained
  | primary
  | constructed
  | arguments
  | object
  | array
  | template
  | markup
  | propertyName
  | pattern
  | target
  | typed
  | typeOperand
  | typing
  | typeArguments
  | typeParameters
  | objectType
deriving DecidableEq, Repr, Inhabited

namespace Grammar

open Form

abbrev Rule := Form Symbol

------------------------------------------------------------
-- Names
------------------------------------------------------------

/- Words that are never names of values. -/
def reserved : List String :=
  [ "break", "case", "catch", "class", "const", "continue",
    "debugger", "default", "delete", "do", "else", "enum",
    "extends", "false", "finally", "for", "function", "if",
    "import", "in", "instanceof", "new", "null", "return",
    "super", "switch", "this", "throw", "true", "try",
    "typeof", "var", "void", "while", "with" ]

/- A name used as a value. -/
def identifier : Rule :=
  name reserved "identifier"

/- A name that is being declared. -/
def binding : Rule :=
  choice
    [ given .types (name [] "identifier"),
      given .noTypes (name reserved "identifier") ]

/- A name behind a dot. -/
def member : Rule :=
  choice
    [ leaf .privateName "private_property_identifier",
      name [] "property_identifier" ]

/- The name of a type. -/
def typeName : Rule :=
  name ["extends", "implements"] "type_identifier"

/- The name of a class. -/
def className : Rule :=
  choice
    [ given .types typeName,
      given .noTypes (name reserved "identifier") ]

/- A quoted text. -/
def quoted : Rule :=
  leaf .string "string"

/- A written number. -/
def numeral : Rule :=
  leaf .number "number"

------------------------------------------------------------
-- Ends of Statements
------------------------------------------------------------

/- The end of a statement behind an expression. -/
def semicolon : Rule :=
  choice [glyph ";", implied ⟨true, false⟩]

/- The end of a member behind a name or a type. -/
def memberEnd : Rule :=
  choice [glyph ";", implied ⟨false, false⟩]

/- The end of a function without a body. -/
def signatureEnd : Rule :=
  choice [glyph ";", implied ⟨false, true⟩]

/- An implied end behind a closing brace. -/
def blockEnd : Rule :=
  maybe (implied ⟨false, false⟩)

/- An initial value. -/
def initializer : Rule :=
  seq [glyph "=", field "value" (sym .expression)]

------------------------------------------------------------
-- Types
------------------------------------------------------------

/- Types that a word of the language names. -/
def predefinedTypes : List String :=
  [ "any", "number", "boolean", "string", "symbol", "void",
    "unknown", "never", "object" ]

/- An access path of a type query. -/
def queryPath : Rule :=
  grow
    (choice
      [ keyword "this", keyword "import",
        identifier ])
    [ wrap "member_expression" (some "object")
        (seq [glyph ".", field "property" member]),
      seq
        [ test .runsOn,
          wrap "subscript_expression" (some "object")
            (under .closed
              (bracketed
                (field "index"
                  (choice [quoted, numeral])))) ],
      wrap "call_expression" (some "function")
        (field "arguments" (sym .arguments)),
      wrap "instantiation_expression" none
        (field "type_arguments" (sym .typeArguments)) ]

/- A named type with its qualifiers and arguments. -/
def namedType : Rule :=
  grow (name ["extends", "implements"] "type_identifier")
    [ wrap "nested_type_identifier" (some "module")
        (seq
          [ glyph ".",
            field "name" (name [] "type_identifier") ]),
      wrap "generic_type" (some "name")
        (field "type_arguments" (sym .typeArguments)) ]

/- A member of a tuple type. -/
def tupleMember : Rule :=
  choice
    [ node "required_parameter"
        (seq
          [ field "name"
              (choice
                [ node "rest_pattern"
                    (seq [glyph "...", identifier]),
                  name [] "identifier" ]),
            field "type" (sym .typing) ]),
      node "optional_parameter"
        (seq
          [ field "name" (name [] "identifier"), glyph "?",
            field "type" (sym .typing) ]),
      node "rest_type" (seq [glyph "...", sym .typed]),
      seq
        [ sym .typed,
          maybe (wrap "optional_type" none (glyph "?")) ] ]

/- A type that stands for one value. -/
def literalType : Rule :=
  node "literal_type"
    (choice
      [ quoted, numeral,
        node "unary_expression" (seq [glyph "-", numeral]),
        keyword "true", keyword "false",
        keyword "null",
        keyword "undefined" ])

/- A type written as a template. -/
def templateType : Rule :=
  node "template_literal_type"
    (seq
      [ glyph "\x60",
        many
          (choice
            [ reading .templateChars "string_fragment",
              node "template_type"
                (seq
                  [ reading .substitution "$\x7b",
                    under .closed (sym .typed),
                    lead "\x7d" ]) ]),
        lead "\x60" ])

/- A type without operators around it. -/
def primaryType : Rule :=
  choice
    [ node "parenthesized_type"
        (under .closed (parenthesized (sym .typed))),
      sym .objectType,
      node "tuple_type"
        (under .closed
          (bracketed
            (seq [commaSep tupleMember, maybe (glyph ",")]))),
      literalType,
      templateType,
      node "type_query" (seq [word "typeof", queryPath]),
      seq
        [ ahead (word "import"), queryPath ],
      node "this_type" (word "this"),
      node "predefined_type"
        (seq [word "unique", word "symbol"]),
      seq
        [ node "predefined_type" (words predefinedTypes),
          notAhead (glyph ".") ],
      node "existential_type" (glyph "*"),
      node "flow_maybe_type"
        (seq [glyph "?", sym .typeOperand]),
      namedType ]

/- Types joined by bars and ampersands. -/
def joinedTypes : Rule :=
  grow (sym .typeOperand)
    [ wrap "union_type" none
        (seq [glyph "|", sym .typeOperand]),
      wrap "intersection_type" none
        (seq [glyph "&", sym .typeOperand]) ]

/- A type with the operators that bind tightest. -/
def typeOperand : Rule :=
  choice
    [ node "function_type"
        (seq
          [ maybe
              (field "type_parameters" (sym .typeParameters)),
            field "parameters" (sym .formalParameters),
            glyph "=>",
            field "return_type" (sym .resultType) ]),
      node "constructor_type"
        (seq
          [ maybe (word "abstract"), word "new",
            maybe
              (field "type_parameters" (sym .typeParameters)),
            field "parameters" (sym .formalParameters),
            glyph "=>", field "type" (sym .typed) ]),
      node "readonly_type"
        (seq [word "readonly", sym .typeOperand]),
      node "index_type_query"
        (seq [word "keyof", sym .typeOperand]),
      node "infer_type"
        (seq
          [ word "infer", typeName,
            maybe (seq [word "extends", joinedTypes]) ]),
      grow primaryType
        [ seq
            [ test .runsOn,
              choice
                [ wrap "array_type" none
                    (seq [glyph "[", glyph "]"]),
                  wrap "lookup_type" none
                    (under .closed
                      (bracketed (sym .typed))) ] ] ] ]

/- Any type. -/
def typed : Rule :=
  seq
    [ maybe (marks ["|", "&"]),
      joinedTypes,
      maybe
        (seq
          [ test .runsOn,
            wrap "conditional_type" (some "left")
              (seq
                [ word "extends",
                  field "right" joinedTypes,
                  glyph "?",
                  field "consequence" (sym .typed), glyph ":",
                  field "alternative" (sym .typed) ]) ]) ]

/- A claim about a parameter. -/
def typePredicate : Rule :=
  node "type_predicate"
    (seq
      [ field "name"
          (choice
            [keyword "this", name [] "identifier"]),
        word "is", field "type" (sym .typed) ])

/- The result of a function: a type or a claim. -/
def resultType : Rule :=
  choice
    [ node "asserts"
        (seq
          [ word "asserts",
            choice
              [ typePredicate, keyword "this",
                name ["is"] "identifier" ] ]),
      typePredicate,
      sym .typed ]

/- A type behind a colon. -/
def typing : Rule :=
  node "type_annotation" (seq [glyph ":", sym .typed])

/- The result of a function behind a colon. -/
def resultTyping : Rule :=
  choice
    [ node "asserts_annotation"
        (seq
          [ glyph ":",
            node "asserts"
              (seq
                [ word "asserts",
                  choice
                    [ typePredicate, keyword "this",
                      name ["is"] "identifier" ] ]) ]),
      node "type_predicate_annotation"
        (seq [glyph ":", typePredicate]),
      sym .typing ]

/- Types between angle brackets. -/
def typeArguments : Rule :=
  node "type_arguments"
    (under .closed
      (seq
        [ glyph "<", commaSep1 (sym .typed), maybe (glyph ","),
          lead ">" ]))

/- Declared types between angle brackets. -/
def typeParameters : Rule :=
  node "type_parameters"
    (under .closed
      (seq
        [ glyph "<",
          commaSep1
            (node "type_parameter"
              (seq
                [ maybe
                    (seq
                      [ word "const",
                        ahead (name [] "identifier") ]),
                  field "name" typeName,
                  maybe
                    (field "constraint"
                      (node "constraint"
                        (seq
                          [ choice
                              [word "extends", glyph ":"],
                            sym .typed ]))),
                  maybe
                    (field "value"
                      (node "default_type"
                        (seq [glyph "=", sym .typed]))) ])),
          maybe (glyph ","), lead ">" ]))

/- An access modifier. -/
def accessibility : Rule :=
  node "accessibility_modifier"
    (words ["public", "private", "protected"])

/-
  A modifier of a member.  The same word is a name if nothing
  that could carry the modifier follows on its line.
-/
def modifier
    (item : Rule) : Rule :=
  maybe
    (seq
      [ item, test .runsOn,
        ahead
          (choice
            [ name [] "identifier", quoted, numeral,
              leaf .privateName "name", glyph "[",
              glyph "*" ]) ])

/- The same for words that are no names in a class. -/
def firmModifier
    (item : Rule) : Rule :=
  maybe
    (seq
      [ item,
        ahead
          (choice
            [ name [] "identifier", quoted, numeral,
              leaf .privateName "name", glyph "[",
              glyph "*" ]) ])

/- A property reached by any key. -/
def indexSignature : Rule :=
  node "index_signature"
    (seq
      [ maybe
          (seq
            [maybe (marks ["-", "+"]), word "readonly"]),
        under .closed
          (bracketed
            (choice
              [ node "mapped_type_clause"
                  (seq
                    [ field "name" (name [] "type_identifier"),
                      word "in", field "type" (sym .typed),
                      maybe
                        (seq
                          [ word "as",
                            field "alias" (sym .typed) ]) ]),
                seq
                  [ field "name" (name [] "identifier"),
                    glyph ":",
                    field "index_type" (sym .typed) ] ])),
        field "type"
          (choice
            [ node "omitting_type_annotation"
                (seq [glyph "-", glyph "?", glyph ":",
                  sym .typed]),
              node "adding_type_annotation"
                (seq [glyph "+", glyph "?", glyph ":",
                  sym .typed]),
              node "opting_type_annotation"
                (seq [glyph "?", glyph ":", sym .typed]),
              sym .typing ]) ])

/- The head of a method, where types are written. -/
def methodHead : Rule :=
  seq
    [ modifier accessibility,
      modifier (word "static"),
      modifier (node "override_modifier" (word "override")),
      modifier (word "readonly"),
      modifier (word "async"),
      maybe
        (choice
          [ glyph "*",
            seq
              [ words ["get", "set"], test .runsOn,
                ahead
                  (choice
                    [ name [] "identifier", quoted, numeral,
                      leaf .privateName "name",
                      glyph "[" ]) ] ]),
      field "name" (sym .propertyName),
      maybe (glyph "?") ]

/- The head of a method, where no types are written. -/
def plainMethodHead : Rule :=
  seq
    [ modifier (word "static"),
      modifier (word "async"),
      maybe
        (choice
          [ glyph "*",
            seq
              [ words ["get", "set"], test .runsOn,
                ahead
                  (choice
                    [ name [] "identifier", quoted, numeral,
                      leaf .privateName "name",
                      glyph "[" ]) ] ]),
      field "name" (sym .propertyName) ]

/- A method without a body. -/
def methodSignature : Rule :=
  node "method_signature"
    (seq [methodHead, sym .callSignature])

/- A property of an object type. -/
def propertySignature : Rule :=
  node "property_signature"
    (seq
      [ modifier accessibility, modifier (word "static"),
        modifier (node "override_modifier" (word "override")),
        modifier (word "readonly"),
        field "name" (sym .propertyName), maybe (glyph "?"),
        maybe (field "type" (sym .typing)) ])

/- The type of an object. -/
def objectMembers : Rule :=
  under .opened
    (braced
      (many
        (choice
          [ seq
              [ choice
                  [ node "construct_signature"
                      (seq
                        [ maybe (word "abstract"), word "new",
                          maybe
                            (field "type_parameters"
                              (sym .typeParameters)),
                          field "parameters"
                            (sym .formalParameters),
                          maybe
                            (field "type"
                              (sym .typing)) ]),
                    node "call_signature" (sym .callSignature),
                    methodSignature,
                    indexSignature,
                    propertySignature ],
                choice
                  [ glyph ",", memberEnd,
                    ahead (glyph "\x7d") ] ],
            glyph ",",
            glyph ";" ])))

------------------------------------------------------------
-- Parameters and Patterns
------------------------------------------------------------

/- Something that can be assigned to, without destructuring. -/
def simpleTarget : Rule :=
  grow
    (choice
      [ identifier, keyword "this",
        keyword "super" ])
    [ wrap "member_expression" (some "object")
        (seq [glyph ".", field "property" member]),
      wrap "subscript_expression" (some "object")
        (under .closed
          (bracketed (field "index" (sym .expressions)))) ]

/- What a declaration or an assignment fills. -/
def pattern : Rule :=
  choice
    [ node "object_pattern"
        (under .closed
          (braced
            (commaHoles
              (choice
                [ node "pair_pattern"
                    (seq
                      [ field "key" (sym .propertyName),
                        glyph ":",
                        field "value" (sym .target) ]),
                  node "rest_pattern"
                    (seq [glyph "...", sym .pattern]),
                  node "object_assignment_pattern"
                    (seq
                      [ field "left"
                          (name reserved
                            "shorthand_property_identifier_pattern"),
                        glyph "=",
                        field "right" (sym .expression) ]),
                  name reserved
                    "shorthand_property_identifier_pattern" ])))),
      node "array_pattern"
        (under .closed (bracketed (commaHoles (sym .target)))),
      node "rest_pattern" (seq [glyph "...", sym .pattern]),
      simpleTarget ]

/- A pattern with an optional value. -/
def target : Rule :=
  seq
    [ sym .pattern,
      maybe
        (wrap "assignment_pattern" (some "left")
          (seq [glyph "=", field "right" (sym .expression)])) ]

/- A modifier of a parameter. -/
def parameterModifier
    (item : Rule) : Rule :=
  maybe
    (seq
      [ item,
        ahead
          (choice
            [ name [] "identifier", glyph "\x7b", glyph "[",
              glyph "..." ]) ])

/- The decorators, modifiers and pattern of a parameter. -/
def parameterName : Rule :=
  seq
    [ many (field "decorator" (sym .decorator)),
      parameterModifier accessibility,
      parameterModifier
        (node "override_modifier" (word "override")),
      parameterModifier (word "readonly"),
      field "pattern"
        (choice [keyword "this", sym .pattern]) ]

/- A parameter of a function. -/
def parameter : Rule :=
  choice
    [ given .types
        (choice
          [ node "optional_parameter"
              (seq
                [ parameterName, glyph "?",
                  maybe (field "type" (sym .typing)),
                  maybe initializer ]),
            node "required_parameter"
              (seq
                [ parameterName,
                  maybe (field "type" (sym .typing)),
                  maybe initializer ]) ]),
      given .noTypes (sym .target) ]

/- The parameters of a function. -/
def formalParameters : Rule :=
  node "formal_parameters"
    (under .closed
      (parenthesized
        (seq [commaSep parameter, maybe (glyph ",")])))

/- The parameters and the result of a function. -/
def callSignature : Rule :=
  choice
    [ given .types
        (seq
          [ maybe
              (field "type_parameters" (sym .typeParameters)),
            field "parameters" (sym .formalParameters),
            maybe (field "return_type" resultTyping) ]),
      given .noTypes
        (field "parameters" (sym .formalParameters)) ]

------------------------------------------------------------
-- Expressions
------------------------------------------------------------

/- The body of a function. -/
def body : Rule :=
  field "body" (sym .statementBlock)

/- Functions written as values. -/
def functionExpression : Rule :=
  choice
    [ node "function_expression"
        (seq
          [ maybe (word "async"), word "function",
            maybe (field "name" identifier),
            sym .callSignature, body ]),
      node "generator_function"
        (seq
          [ maybe (word "async"), word "function", glyph "*",
            maybe (field "name" identifier),
            sym .callSignature, body ]) ]

/- Classes written as values. -/
def classExpression : Rule :=
  node "class"
    (seq
      [ many (field "decorator" (sym .decorator)),
        word "class",
        maybe (field "name" className),
        maybe
          (field "type_parameters" (sym .typeParameters)),
        maybe (sym .classHeritage),
        field "body" (sym .classBody) ])

/- The same where types are not written. -/
def plainClassExpression : Rule :=
  node "class"
    (seq
      [ many (field "decorator" (sym .decorator)),
        word "class",
        maybe (field "name" className),
        maybe (sym .classHeritage),
        field "body" (sym .classBody) ])

/- An expression in parentheses. -/
def parenthesizedExpression : Rule :=
  node "parenthesized_expression"
    (under .closed
      (parenthesized
        (seq
          [ sym .expressions,
            choice
              [ seq
                  [ test .types,
                    field "type" (sym .typing) ],
                seq [] ] ])))

/- Expressions that need no operator. -/
def primary : Rule :=
  choice
    [ parenthesizedExpression,
      keyword "this",
      keyword "super",
      keyword "true",
      keyword "false",
      keyword "null",
      keyword "undefined",
      functionExpression,
      given .types classExpression,
      given .noTypes plainClassExpression,
      node "meta_property"
        (seq [word "new", glyph ".", word "target"]),
      node "meta_property"
        (seq [word "import", glyph ".", word "meta"]),
      keyword "import",
      node "new_expression"
        (seq
          [ word "new",
            field "constructor" (sym .constructed),
            maybe
              (given .types
                (field "type_arguments"
                  (sym .typeArguments))),
            maybe
              (given .goesOn
                (field "arguments" (sym .arguments))) ]),
      identifier,
      numeral,
      quoted,
      sym .template,
      sym .object,
      sym .array,
      reading .pattern "regex" ]

/- The access of a member. -/
def memberLink : Rule :=
  wrap "member_expression" (some "object")
    (seq [glyph ".", field "property" member])

/- The access of an element. -/
def elementLink : Rule :=
  wrap "subscript_expression" (some "object")
    (under .closed
      (bracketed (field "index" (sym .expressions))))

/- What `new` builds. -/
def constructed : Rule :=
  grow (sym .primary)
    [given .goesOn (choice [memberLink, elementLink])]

/- An optional access. -/
def optionalLink : Rule :=
  choice
    [ wrap "member_expression" (some "object")
        (seq
          [ field "optional_chain"
              (node "optional_chain" (glyph "?.")),
            field "property" member ]),
      wrap "subscript_expression" (some "object")
        (seq
          [ field "optional_chain"
              (node "optional_chain" (glyph "?.")),
            under .closed
              (bracketed
                (field "index" (sym .expressions))) ]),
      wrap "call_expression" (some "function")
        (seq
          [ field "optional_chain"
              (node "optional_chain" (glyph "?.")),
            choice
              [ seq
                  [ test .types,
                    field "type_arguments"
                      (sym .typeArguments),
                    field "arguments" (sym .arguments) ],
                field "arguments" (sym .arguments) ] ]) ]

/- Anything that starts an expression. -/
def expressionStart : Rule :=
  choice
    [ name ["in", "instanceof", "as", "satisfies", "of"]
        "identifier",
      numeral, quoted, glyph "(", glyph "[", glyph "\x7b",
      glyph "!", glyph "~", glyph "+", glyph "-", glyph "++",
      glyph "--", glyph "\x60", glyph "/" ]

/- Type arguments behind an expression. -/
def instantiationLinks : Rule :=
  choice
    [ wrap "call_expression" (some "function")
        (seq
          [ field "type_arguments" (sym .typeArguments),
            field "arguments" (sym .arguments) ]),
      wrap "instantiation_expression" none
        (seq
          [ field "type_arguments" (sym .typeArguments),
            notAhead expressionStart ]) ]

/- A call. -/
def callLink : Rule :=
  wrap "call_expression" (some "function")
    (field "arguments" (sym .arguments))

/- A template behind an expression. -/
def templateLink : Rule :=
  wrap "call_expression" (some "function")
    (field "arguments" (sym .template))

/- Everything that can follow a value without an operator. -/
def chained : Rule :=
  grow (sym .primary)
    [ given .goesOn
        (choice
          [ memberLink,
            callLink,
            elementLink,
            optionalLink,
            templateLink,
            given .types
              (choice
                [ wrap "non_null_expression" none (glyph "!"),
                  instantiationLinks ]),
            wrap "update_expression" (some "argument")
              (field "operator" (marks ["++", "--"])) ]) ]

/- A binding that is disposed of when its block ends. -/
def disposable : Rule :=
  node "assignment_expression"
    (seq
      [ word "using", field "left" identifier, glyph "=",
        field "right" (sym .expression) ])

/- Operators before a value. -/
def unary : Rule :=
  choice
    [ node "unary_expression"
        (seq
          [ field "operator"
              (choice
                [ marks ["!", "~", "-", "+"],
                  words ["typeof", "void", "delete"] ]),
            field "argument" (sym .unary) ]),
      node "update_expression"
        (seq
          [ field "operator" (marks ["++", "--"]),
            field "argument" (sym .unary) ]),
      node "await_expression"
        (seq [word "await", choice [disposable, sym .unary]]),
      seq
        [ leaf .privateName "private_property_identifier",
          ahead (word "in") ],
      given .markup (sym .markup),
      given .noMarkup
        (node "type_assertion"
          (seq [sym .typeArguments, sym .unary])),
      sym .chained ]

/- An operand with the types it is taken for. -/
def operand : Rule :=
  grow (sym .unary)
    [ seq
        [ test .types, test .goesOn,
          choice
            [ wrap "as_expression" none
                (seq
                  [ word "as",
                    choice [word "const", sym .typed] ]),
              wrap "satisfies_expression" none
                (seq [word "satisfies", sym .typed]) ] ] ]

/- The binary operators. -/
def binaryOperator : Rule :=
  choice
    [ marks
        [ "+", "-", "*", "/", "%", "**", "<", "<=", ">", ">=",
          "==", "===", "!=", "!==", "&&", "||", "??", "&", "|",
          "^", "<<", ">>", ">>>" ],
      words ["in", "instanceof"] ]

/- Operands, operators and the conditional operator. -/
def conditional : Rule :=
  seq
    [ operators
        (seq
          [ sym .operand,
            many
              (seq
                [ test .goesOn, binaryOperator,
                  sym .operand ]) ]),
      maybe
        (seq
          [ test .goesOn,
            wrap "ternary_expression" (some "condition")
              (seq
                [ glyph "?",
                  choice
                    [ seq
                        [ field "consequence"
                            (under .closed
                              (sym .expression)),
                          glyph ":" ],
                      seq
                        [ field "consequence"
                            (under .closed
                              (under .undeclaring
                                (sym .expression))),
                          glyph ":" ] ],
                  field "alternative" (sym .expression) ]) ]) ]

/- A function written with an arrow. -/
def arrowFunction : Rule :=
  let arrowBody : Rule :=
    seq
      [ glyph "=>",
        field "body"
          (choice [sym .statementBlock, sym .expression]) ]
  let signature : Rule :=
    choice
      [ seq
          [ test .declares, sym .callSignature,
            ahead (glyph "=>") ],
        field "parameters" (sym .formalParameters) ]
  seq
    [ ahead
        (choice
          [glyph "(", glyph "<", name reserved "identifier"]),
      choice
        [ node "arrow_function"
            (seq [field "parameter" identifier, arrowBody]),
          node "arrow_function"
            (seq
              [ word "async", test .goesOn,
                choice
                  [field "parameter" identifier, signature],
                arrowBody ]),
          node "arrow_function" (seq [signature, arrowBody]) ] ]

/- What may stand on the left of an assignment. -/
def assignable : List String :=
  [ "identifier", "member_expression", "subscript_expression",
    "parenthesized_expression", "non_null_expression" ]

/- Any expression but a sequence. -/
def expression : Rule :=
  choice
    [ sym .arrowFunction,
      disposable,
      node "yield_expression"
        (seq
          [ word "yield", glyph "*", sym .expression ]),
      node "yield_expression"
        (seq
          [ word "yield",
            choice
              [ given .goesOn (sym .expression),
                notAhead
                  (marks ["=", ".", "(", "=>", "[", "?."]) ] ]),
      seq
        [ sym .conditional,
          notAhead
            (seq [test (.last ["object", "array"]), glyph "="]),
          maybe
            (seq
              [ test (.last assignable),
                choice
                  [ wrap "assignment_expression" (some "left")
                      (seq
                        [ glyph "=",
                          field "right" (sym .expression) ]),
                    wrap "augmented_assignment_expression"
                      (some "left")
                      (seq
                        [ field "operator"
                            (marks
                              [ "+=", "-=", "*=", "/=", "%=",
                                "^=", "&=", "|=", ">>=",
                                ">>>=", "<<=", "**=", "&&=",
                                "||=", "??=" ]),
                          field "right"
                            (sym .expression) ]) ] ]) ],
      seq
        [ ahead (choice [glyph "\x7b", glyph "["]),
          node "assignment_expression"
            (seq
              [ field "left" (sym .pattern), glyph "=",
                field "right" (sym .expression) ]) ] ]

/- An expression or a sequence of expressions. -/
def expressions : Rule :=
  group "sequence_expression" (commaSep1 (sym .expression))

/- An element that is spread out. -/
def spread : Rule :=
  node "spread_element" (seq [glyph "...", sym .expression])

/- The arguments of a call. -/
def arguments : Rule :=
  node "arguments"
    (under .closed
      (parenthesized
        (commaHoles (choice [spread, sym .expression]))))

/- An array. -/
def array : Rule :=
  node "array"
    (under .closed
      (bracketed
        (commaHoles (choice [spread, sym .expression]))))

/- An object. -/
def object : Rule :=
  node "object"
    (under .closed
      (braced
        (commaHoles
          (choice
            [ node "pair"
                (seq
                  [ field "key" (sym .propertyName), glyph ":",
                    field "value" (sym .expression) ]),
              spread,
              sym .methodDefinition,
              name [] "shorthand_property_identifier" ]))))

/- The name of a property. -/
def propertyName : Rule :=
  choice
    [ name [] "property_identifier",
      leaf .privateName "private_property_identifier",
      quoted,
      numeral,
      node "computed_property_name"
        (under .closed (bracketed (sym .expression))) ]

/- A template. -/
def template : Rule :=
  node "template_string"
    (seq
      [ glyph "\x60",
        many
          (choice
            [ reading .templateChars "string_fragment",
              node "template_substitution"
                (seq
                  [ reading .substitution "$\x7b",
                    under .closed (sym .expressions),
                    lead "\x7d" ]) ]),
        lead "\x60" ])

------------------------------------------------------------
-- Markup
------------------------------------------------------------

/- An expression inside markup. -/
def markupExpression : Rule :=
  node "jsx_expression"
    (under .closed
      (seq
        [ lead "\x7b",
          maybe (choice [spread, sym .expressions]),
          lead "\x7d" ]))

/- An attribute of a tag. -/
def markupAttribute : Rule :=
  choice
    [ markupExpression,
      node "jsx_attribute"
        (seq
          [ reading .markupName "property_identifier",
            maybe
              (seq
                [ lead "=",
                  choice
                    [ reading .markupString "string",
                      markupExpression,
                      sym .markup ] ]) ]) ]

/- The inside of an opening tag. -/
def markupHead : Rule :=
  seq
    [ field "name" (reading .markupName "identifier"),
      maybe
        (given .types
          (field "type_arguments" (sym .typeArguments))),
      many (field "attribute" markupAttribute) ]

/- An element with its tags. -/
def markup : Rule :=
  seq
    [ ahead (lead "<"),
      choice
        [ node "jsx_self_closing_element"
            (seq [lead "<", markupHead, lead "/", lead ">"]),
          node "jsx_element"
            (seq
              [ field "open_tag"
                  (node "jsx_opening_element"
                    (seq
                      [ lead "<", maybe markupHead,
                        lead ">" ])),
                many
                  (choice
                    [ reading .markupText "jsx_text",
                      seq
                        [ notAhead
                            (seq [lead "<", lead "/"]),
                          sym .markup ],
                      markupExpression ]),
                field "close_tag"
                  (node "jsx_closing_element"
                    (seq
                      [ lead "<", lead "/",
                        maybe
                          (field "name"
                            (reading .markupName
                              "identifier")),
                        lead ">" ])) ]) ] ]

------------------------------------------------------------
-- Classes
------------------------------------------------------------

/- The chain of names in a decorator. -/
def decoratorName : Rule :=
  grow (name reserved "identifier") [memberLink]

/- A call in a decorator. -/
def decoratorCall : Rule :=
  node "call_expression"
    (seq
      [ field "function" decoratorName,
        maybe
          (given .types
            (field "type_arguments" (sym .typeArguments))),
        given .unbroken (field "arguments" (sym .arguments)) ])

/- A decorator. -/
def decorator : Rule :=
  node "decorator"
    (seq
      [ glyph "@",
        choice
          [ decoratorCall,
            decoratorName,
            given .types
              (node "parenthesized_expression"
                (under .closed
                  (parenthesized
                    (choice
                      [decoratorCall, decoratorName])))) ] ])

/- The value a class extends. -/
def superclass : Rule :=
  grow (sym .primary)
    [ choice
        [ memberLink,
          callLink,
          elementLink,
          optionalLink,
          templateLink,
          given .types
            (choice
              [ wrap "non_null_expression" none (glyph "!"),
                wrap "call_expression" (some "function")
                  (seq
                    [ field "type_arguments"
                        (sym .typeArguments),
                      field "arguments" (sym .arguments) ]) ]) ] ]

/- What a class extends and implements. -/
def classHeritage : Rule :=
  let implementsClause : Rule :=
    node "implements_clause"
      (seq [word "implements", commaSep1 (sym .typed)])
  node "class_heritage"
    (choice
      [ given .types
          (choice
            [ seq
                [ node "extends_clause"
                    (seq
                      [ word "extends",
                        commaSep1
                          (seq
                            [ field "value" superclass,
                              maybe
                                (field "type_arguments"
                                  (sym .typeArguments)) ]) ]),
                  maybe implementsClause ],
              implementsClause ]),
        given .noTypes
          (seq [word "extends", superclass]) ])

/- A method with its body. -/
def methodDefinition : Rule :=
  choice
    [ given .types
        (node "method_definition"
          (seq [methodHead, sym .callSignature, body])),
      given .noTypes
        (node "method_definition"
          (seq
            [ many (field "decorator" (sym .decorator)),
              plainMethodHead, sym .callSignature, body ])) ]

/- A block that runs when the class is made. -/
def staticBlock : Rule :=
  node "class_static_block"
    (seq [word "static", body, blockEnd])

/- A field of a class where types are written. -/
def publicField : Rule :=
  node "public_field_definition"
    (seq
      [ many (field "decorator" (sym .decorator)),
        modifier (word "declare"), modifier accessibility,
        modifier (word "declare"), modifier (word "static"),
        modifier (node "override_modifier" (word "override")),
        modifier (word "readonly"),
        firmModifier (word "abstract"),
        modifier (word "readonly"),
        firmModifier (word "accessor"),
        field "name" (sym .propertyName),
        maybe (marks ["?", "!"]),
        maybe (field "type" (sym .typing)),
        maybe initializer ])

/- A field of a class where no types are written. -/
def plainField : Rule :=
  node "field_definition"
    (seq
      [ many (field "decorator" (sym .decorator)),
        modifier (word "static"),
        field "property" (sym .propertyName),
        maybe initializer ])

/- The members of a class. -/
def classBody : Rule :=
  node "class_body"
    (under .opened
      (braced
        (many
          (choice
            [ glyph ";",
              staticBlock,
              given .types
                (choice
                  [ seq
                      [ many
                          (field "decorator"
                            (sym .decorator)),
                        sym .methodDefinition,
                        maybe memberEnd ],
                    seq
                      [ node "abstract_method_signature"
                          (seq
                            [ modifier accessibility,
                              word "abstract",
                              modifier
                                (node "override_modifier"
                                  (word "override")),
                              maybe
                                (choice
                                  [ glyph "*",
                                    seq
                                      [ words ["get", "set"],
                                        ahead
                                          (choice
                                            [ name []
                                                "identifier",
                                              quoted, numeral,
                                              glyph "[" ]) ] ]),
                              field "name"
                                (sym .propertyName),
                              maybe (glyph "?"),
                              sym .callSignature ]),
                        choice [signatureEnd, glyph ","] ],
                    seq
                      [ methodSignature,
                        choice [signatureEnd, glyph ","] ],
                    seq
                      [ indexSignature,
                        choice [memberEnd, glyph ","] ],
                    seq
                      [ publicField,
                        choice [memberEnd, glyph ","] ] ]),
              given .noTypes
                (choice
                  [ seq
                      [ field "member"
                          (sym .methodDefinition),
                        maybe (glyph ";") ],
                    seq
                      [ field "member" plainField,
                        memberEnd ] ]) ]))))

/- A class. -/
def classDeclaration : Rule :=
  node "class_declaration"
    (seq
      [ many (field "decorator" (sym .decorator)),
        word "class",
        field "name" className,
        choice
          [ seq
              [ test .types,
                maybe
                  (field "type_parameters"
                    (sym .typeParameters)) ],
            test .noTypes ],
        maybe (sym .classHeritage),
        field "body" (sym .classBody),
        blockEnd ])

/- A class that leaves members to its heirs. -/
def abstractClass : Rule :=
  node "abstract_class_declaration"
    (seq
      [ many (field "decorator" (sym .decorator)),
        word "abstract", word "class",
        field "name" className,
        maybe
          (field "type_parameters" (sym .typeParameters)),
        maybe (sym .classHeritage),
        field "body" (sym .classBody) ])

------------------------------------------------------------
-- Declarations
------------------------------------------------------------

/- One variable of a declaration. -/
def declarator : Rule :=
  node "variable_declarator"
    (seq
      [ field "name"
          (choice
            [ seq
                [ ahead (choice [glyph "\x7b", glyph "["]),
                  sym .pattern ],
              binding ]),
        choice
          [ seq
              [ test .types, maybe (glyph "!"),
                maybe (field "type" (sym .typing)) ],
            test .noTypes ],
        maybe initializer ])

/- Something that can be declared. -/
def declarableStart : Rule :=
  choice [glyph "\x7b", glyph "[", name [] "identifier"]

/- Variables with block scope. -/
def lexicalDeclaration : Rule :=
  node "lexical_declaration"
    (seq
      [ field "kind"
          (choice
            [ word "const",
              seq
                [ word "let", test .goesOn,
                  ahead declarableStart,
                  notAhead (words ["in", "instanceof"]) ] ]),
        commaSep1 declarator, semicolon ])

/- Variables with function scope. -/
def variableDeclaration : Rule :=
  node "variable_declaration"
    (seq [word "var", commaSep1 declarator, semicolon])

/- A function. -/
def functionDeclaration : Rule :=
  choice
    [ node "function_declaration"
        (seq
          [ maybe (seq [word "async", test .goesOn]),
            word "function", field "name" binding,
            sym .callSignature, body, blockEnd ]),
      node "generator_function_declaration"
        (seq
          [ maybe (seq [word "async", test .goesOn]),
            word "function", glyph "*",
            field "name" binding, sym .callSignature, body,
            blockEnd ]) ]

/- A function without a body. -/
def functionSignature : Rule :=
  node "function_signature"
    (seq
      [ maybe (word "async"), word "function",
        field "name" binding, sym .callSignature,
        signatureEnd ])

/- The name and the body of a module or a namespace. -/
def moduleBody : Rule :=
  seq
    [ field "name"
        (choice
          [ quoted,
            grow (name [] "identifier")
              [ wrap "nested_identifier" (some "object")
                  (seq [glyph ".", field "property" member]) ] ]),
      maybe (field "body" (sym .statementBlock)) ]

/- A named type. -/
def typeAlias : Rule :=
  node "type_alias_declaration"
    (seq
      [ word "type", test .goesOn, field "name" typeName,
        maybe (field "type_parameters" (sym .typeParameters)),
        glyph "=", field "value" (sym .typed), memberEnd ])

/- The type of what a class offers. -/
def interface : Rule :=
  node "interface_declaration"
    (seq
      [ word "interface", field "name" typeName,
        maybe (field "type_parameters" (sym .typeParameters)),
        maybe
          (node "extends_type_clause"
            (seq
              [ word "extends",
                commaSep1 (field "type" namedType) ])),
        field "body" (node "interface_body" objectMembers) ])

/- A type of named constants. -/
def enumeration : Rule :=
  node "enum_declaration"
    (seq
      [ maybe (word "const"), word "enum",
        field "name" (name [] "identifier"),
        field "body"
          (node "enum_body"
            (under .closed
              (braced
                (commaHoles
                  (choice
                    [ node "enum_assignment"
                        (seq
                          [ field "name" (sym .propertyName),
                            initializer ]),
                      field "name"
                        (sym .propertyName) ]))))) ])

/- Another name for an imported module. -/
def importAlias : Rule :=
  node "import_alias"
    (seq
      [ word "import", name [] "identifier", glyph "=",
        notAhead (seq [word "require", glyph "("]),
        grow (name [] "identifier")
          [ wrap "nested_identifier" (some "object")
              (seq [glyph ".", field "property" member]) ],
        semicolon ])

/- A declaration of something that exists elsewhere. -/
def ambient : Rule :=
  node "ambient_declaration"
    (seq
      [ word "declare", test .goesOn,
        choice
          [ seq [word "global", sym .statementBlock],
            sym .declaration ] ])

/- Declarations. -/
def declaration : Rule :=
  choice
    [ sym .classDeclaration,
      functionDeclaration,
      given .types
        (choice
          [ abstractClass,
            functionSignature,
            typeAlias,
            interface,
            enumeration,
            seq
              [ node "module"
                  (seq [word "module", test .goesOn,
                    moduleBody]),
                blockEnd ],
            seq
              [ node "internal_module"
                  (seq [word "namespace", test .goesOn,
                    moduleBody]),
                blockEnd ],
            importAlias,
            ambient ]),
      lexicalDeclaration,
      variableDeclaration ]

------------------------------------------------------------
-- Imports and Exports
------------------------------------------------------------

/- A name by which modules know a value. -/
def exportName : Rule :=
  choice [name [] "identifier", quoted]

/- Where an import comes from. -/
def fromClause : Rule :=
  seq [word "from", field "source" quoted]

/- Notes on how to import. -/
def importAttribute : Rule :=
  maybe
    (node "import_attribute"
      (seq [words ["with", "assert"], sym .object]))

/- Imported names in braces. -/
def namedImports : Rule :=
  let specifier : Rule :=
    seq
      [ field "name" exportName,
        maybe
          (seq
            [ word "as",
              field "alias" (name [] "identifier") ]),
        ahead (choice [glyph ",", glyph "\x7d"]) ]
  node "named_imports"
    (under .closed
      (braced
        (seq
          [ commaSep
              (choice
                [ node "import_specifier" specifier,
                  node "import_specifier"
                    (seq
                      [words ["type", "typeof"], specifier]) ]),
            maybe (glyph ",") ])))

/- What an import names. -/
def importClause : Rule :=
  let all : Rule :=
    node "namespace_import"
      (seq [glyph "*", word "as", name [] "identifier"])
  node "import_clause"
    (choice
      [ all, namedImports,
        seq
          [ name [] "identifier",
            maybe
              (seq [glyph ",", choice [all, namedImports]]) ] ])

/- An import. -/
def importStatement : Rule :=
  let plain : Rule :=
    choice
      [ seq [importClause, fromClause],
        given .types
          (node "import_require_clause"
            (seq
              [ name [] "identifier", glyph "=",
                word "require", glyph "(",
                field "source" quoted, glyph ")" ])),
        field "source" quoted ]
  choice
    [ node "import_statement"
        (seq [word "import", plain, importAttribute,
          semicolon]),
      given .types
        (node "import_statement"
          (seq
            [ word "import", words ["type", "typeof"], plain,
              importAttribute, semicolon ])) ]

/- Exported names in braces. -/
def exportClause : Rule :=
  let specifier : Rule :=
    seq
      [ field "name" exportName,
        maybe (seq [word "as", field "alias" exportName]),
        ahead (choice [glyph ",", glyph "\x7d"]) ]
  node "export_clause"
    (under .closed
      (braced
        (seq
          [ commaSep
              (choice
                [ node "export_specifier" specifier,
                  node "export_specifier"
                    (seq
                      [words ["type", "typeof"], specifier]) ]),
            maybe (glyph ",") ])))

/- An export. -/
def exportStatement : Rule :=
  node "export_statement"
    (seq
      [ many (field "decorator" (sym .decorator)),
        word "export", test .goesOn,
        choice
          [ seq
              [ glyph "*", fromClause, importAttribute,
                semicolon ],
            seq
              [ node "namespace_export"
                  (seq [glyph "*", word "as", exportName]),
                fromClause, importAttribute, semicolon ],
            seq
              [ exportClause, fromClause, importAttribute,
                semicolon ],
            seq [exportClause, semicolon],
            given .types
              (choice
                [ seq
                    [ word "type", exportClause,
                      maybe fromClause, semicolon ],
                  seq
                    [ glyph "=", sym .expression, semicolon ],
                  seq
                    [ word "as", word "namespace",
                      name [] "identifier", semicolon ] ]),
            seq
              [ word "default",
                choice
                  [ field "declaration" (sym .declaration),
                    seq
                      [ field "value" (sym .expression),
                        semicolon ] ] ],
            field "declaration" (sym .declaration) ] ])

------------------------------------------------------------
-- Statements
------------------------------------------------------------

/- A condition in parentheses. -/
def condition : Rule :=
  field "condition" parenthesizedExpression

/- A statement that belongs to another. -/
def inner
    (name : String) : Rule :=
  field name (sym .statement)

/- The head of a loop over the parts of a value. -/
def eachHead : Rule :=
  under .closed
    (parenthesized
      (seq
        [ choice
            [ seq
                [ field "kind" (words ["let", "const", "var"]),
                  field "left"
                    (choice
                      [ seq
                          [ ahead
                              (choice
                                [glyph "\x7b", glyph "["]),
                            sym .pattern ],
                        binding ]) ],
              field "left" (sym .pattern),
              field "left" parenthesizedExpression ],
          field "operator" (words ["in", "of"]),
          field "right" (sym .expressions) ]))

/- The head of a counting loop. -/
def countHead : Rule :=
  under .closed
    (parenthesized
      (seq
        [ choice
            [ field "initializer"
                (node "lexical_declaration"
                  (seq
                    [ field "kind" (words ["let", "const"]),
                      commaSep1 declarator, glyph ";" ])),
              field "initializer"
                (node "variable_declaration"
                  (seq
                    [ word "var", commaSep1 declarator,
                      glyph ";" ])),
              seq
                [ field "initializer" (sym .expressions),
                  glyph ";" ],
              field "initializer"
                (node "empty_statement" (glyph ";")) ],
          choice
            [ seq
                [ field "condition" (sym .expressions),
                  glyph ";" ],
              field "condition"
                (node "empty_statement" (glyph ";")) ],
          maybe (field "increment" (sym .expressions)) ]))

/- The cases of a switch. -/
def switchBody : Rule :=
  node "switch_body"
    (braced
      (many
        (choice
          [ node "switch_case"
              (seq
                [ word "case",
                  field "value"
                    (under .closed (sym .expressions)),
                  glyph ":", many (inner "body") ]),
            node "switch_default"
              (seq
                [ word "default", glyph ":",
                  many (inner "body") ]) ])))

/- What to do when a block fails or ends. -/
def handlers : Rule :=
  seq
    [ maybe
        (field "handler"
          (node "catch_clause"
            (seq
              [ word "catch",
                maybe
                  (under .closed
                    (parenthesized
                      (seq
                        [ field "parameter" (sym .pattern),
                          choice
                            [ seq
                                [ test .types,
                                  maybe
                                    (field "type"
                                      (sym .typing)) ],
                              test .noTypes ] ]))),
                body ]))),
      maybe
        (field "finalizer"
          (node "finally_clause"
            (seq [word "finally", body]))) ]

/- A jump, perhaps to a label. -/
def jump
    (kind text : String) : Rule :=
  node kind
    (seq
      [ word text,
        maybe
          (given .goesOn
            (field "label"
              (name reserved "statement_identifier"))),
        semicolon ])

/- Statements. -/
def statement : Rule :=
  choice
    [ node "empty_statement" (glyph ";"),
      seq
        [ ahead (choice [word "export", glyph "@"]),
          exportStatement ],
      seq [ahead (word "import"), importStatement],
      sym .declaration,
      sym .statementBlock,
      node "if_statement"
        (seq
          [ word "if", condition, inner "consequence",
            maybe
              (field "alternative"
                (node "else_clause"
                  (seq [word "else", sym .statement]))) ]),
      node "for_in_statement"
        (seq
          [ word "for", maybe (word "await"), eachHead,
            inner "body" ]),
      node "for_statement"
        (seq [word "for", countHead, inner "body"]),
      node "while_statement"
        (seq [word "while", condition, inner "body"]),
      node "do_statement"
        (seq
          [ word "do", inner "body", word "while", condition,
            maybe semicolon ]),
      node "return_statement"
        (seq
          [ word "return",
            maybe (given .goesOn (sym .expressions)),
            semicolon ]),
      node "switch_statement"
        (seq
          [ word "switch",
            field "value" parenthesizedExpression,
            field "body" switchBody ]),
      node "try_statement"
        (seq [word "try", body, handlers]),
      node "throw_statement"
        (seq [word "throw", sym .expressions, semicolon]),
      jump "break_statement" "break",
      jump "continue_statement" "continue",
      node "debugger_statement"
        (seq [word "debugger", semicolon]),
      node "with_statement"
        (seq
          [ word "with",
            field "object" parenthesizedExpression,
            inner "body" ]),
      node "labeled_statement"
        (seq
          [ field "label"
              (name reserved "statement_identifier"),
            glyph ":", inner "body" ]),
      node "expression_statement"
        (seq [sym .expressions, semicolon]) ]

/- Statements in braces. -/
def statementBlock : Rule :=
  node "statement_block"
    (seq
      [ under .opened (braced (many (sym .statement))),
        blockEnd ])

/- A whole text. -/
def program : Rule :=
  seq
    [ maybe (reading .interpreter "hash_bang_line"),
      many (sym .statement), finish ]

/- The form of each nonterminal. -/
def rule : Symbol → Rule
  | .program => program
  | .statement => statement
  | .declaration => declaration
  | .statementBlock => statementBlock
  | .decorator => decorator
  | .classDeclaration => classDeclaration
  | .classHeritage => classHeritage
  | .classBody => classBody
  | .methodDefinition => methodDefinition
  | .formalParameters => formalParameters
  | .callSignature => callSignature
  | .resultType => resultType
  | .expression => expression
  | .expressions => expressions
  | .arrowFunction => arrowFunction
  | .conditional => conditional
  | .operand => operand
  | .unary => unary
  | .chained => chained
  | .primary => primary
  | .constructed => constructed
  | .arguments => arguments
  | .object => object
  | .array => array
  | .template => template
  | .markup => markup
  | .propertyName => propertyName
  | .pattern => pattern
  | .target => target
  | .typed => typed
  | .typeOperand => typeOperand
  | .typing => typing
  | .typeArguments => typeArguments
  | .typeParameters => typeParameters
  | .objectType => node "object_type" objectMembers

end Grammar

end Script

end ModuleLint
