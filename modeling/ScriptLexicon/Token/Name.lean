import ScriptLexicon.CodeSpace

/-!
# Names of codes

Every token has a name of its own; the end of the code space has none. The names are kept in a
table with a slot for each position. A code is shown by its name, or by its decimal value where
it has no name.
-/

namespace ScriptLexicon

def Token.named : List (Code × String) := [
  (Token.error, "ERROR"), (Token.endOfInput, "EOF"), (Token.endOfLine, "EOL"),
  (Token.enterWith, "ENTERWITH"), (Token.leaveWith, "LEAVEWITH"), (Token.return, "RETURN"),
  (Token.goto, "GOTO"), (Token.ifEq, "IFEQ"), (Token.ifNe, "IFNE"), (Token.setName, "SETNAME"),
  (Token.bitOr, "BITOR"), (Token.bitXor, "BITXOR"), (Token.bitAnd, "BITAND"), (Token.eq, "EQ"),
  (Token.ne, "NE"), (Token.lt, "LT"), (Token.le, "LE"), (Token.gt, "GT"), (Token.ge, "GE"),
  (Token.shiftLeft, "LSH"), (Token.shiftRight, "RSH"), (Token.shiftRightUnsigned, "URSH"),
  (Token.add, "ADD"), (Token.sub, "SUB"), (Token.mul, "MUL"), (Token.div, "DIV"),
  (Token.mod, "MOD"), (Token.not, "NOT"), (Token.bitNot, "BITNOT"), (Token.plus, "POS"),
  (Token.minus, "NEG"), (Token.new, "NEW"), (Token.deleteProp, "DELPROP"),
  (Token.typeof, "TYPEOF"), (Token.getProp, "GETPROP"), (Token.getPropNoWarn, "GETPROPNOWARN"),
  (Token.setProp, "SETPROP"), (Token.getElem, "GETELEM"), (Token.setElem, "SETELEM"),
  (Token.call, "CALL"), (Token.name, "NAME"), (Token.number, "NUMBER"), (Token.string, "STRING"),
  (Token.null, "NULL"), (Token.this, "THIS"), (Token.false, "FALSE"), (Token.true, "TRUE"),
  (Token.strictEq, "SHEQ"), (Token.strictNe, "SHNE"), (Token.regExp, "REGEXP"),
  (Token.bindName, "BINDNAME"), (Token.throw, "THROW"), (Token.rethrow, "RETHROW"),
  (Token.in, "IN"), (Token.instanceof, "INSTANCEOF"), (Token.localLoad, "LOCAL_LOAD"),
  (Token.getVar, "GETVAR"), (Token.setVar, "SETVAR"), (Token.catchScope, "CATCH_SCOPE"),
  (Token.enumInitKeys, "ENUM_INIT_KEYS"), (Token.enumInitValues, "ENUM_INIT_VALUES"),
  (Token.enumInitArray, "ENUM_INIT_ARRAY"), (Token.enumNext, "ENUM_NEXT"),
  (Token.enumId, "ENUM_ID"), (Token.thisFn, "THISFN"), (Token.returnResult, "RETURN_RESULT"),
  (Token.arrayLit, "ARRAYLIT"), (Token.objectLit, "OBJECTLIT"), (Token.getRef, "GET_REF"),
  (Token.setRef, "SET_REF"), (Token.delRef, "DEL_REF"), (Token.refCall, "REF_CALL"),
  (Token.refSpecial, "REF_SPECIAL"), (Token.yield, "YIELD"),
  (Token.strictSetName, "STRICT_SETNAME"), (Token.defaultNamespace, "DEFAULTNAMESPACE"),
  (Token.escapeXmlAttr, "ESCXMLATTR"), (Token.escapeXmlText, "ESCXMLTEXT"),
  (Token.refMember, "REF_MEMBER"), (Token.refNsMember, "REF_NS_MEMBER"),
  (Token.refName, "REF_NAME"), (Token.refNsName, "REF_NS_NAME"), (Token.try, "TRY"),
  (Token.semicolon, "SEMI"), (Token.leftBracket, "LB"), (Token.rightBracket, "RB"),
  (Token.leftBrace, "LC"), (Token.rightBrace, "RC"), (Token.leftParen, "LP"),
  (Token.rightParen, "RP"), (Token.comma, "COMMA"), (Token.assign, "ASSIGN"),
  (Token.assignBitOr, "ASSIGN_BITOR"), (Token.assignBitXor, "ASSIGN_BITXOR"),
  (Token.assignBitAnd, "ASSIGN_BITAND"), (Token.assignShiftLeft, "ASSIGN_LSH"),
  (Token.assignShiftRight, "ASSIGN_RSH"), (Token.assignShiftRightUnsigned, "ASSIGN_URSH"),
  (Token.assignAdd, "ASSIGN_ADD"), (Token.assignSub, "ASSIGN_SUB"),
  (Token.assignMul, "ASSIGN_MUL"), (Token.assignDiv, "ASSIGN_DIV"),
  (Token.assignMod, "ASSIGN_MOD"), (Token.conditional, "HOOK"), (Token.colon, "COLON"),
  (Token.or, "OR"), (Token.and, "AND"), (Token.increment, "INC"), (Token.decrement, "DEC"),
  (Token.dot, "DOT"), (Token.function, "FUNCTION"), (Token.export, "EXPORT"),
  (Token.import, "IMPORT"), (Token.if, "IF"), (Token.else, "ELSE"), (Token.switch, "SWITCH"),
  (Token.case, "CASE"), (Token.default, "DEFAULT"), (Token.while, "WHILE"), (Token.do, "DO"),
  (Token.for, "FOR"), (Token.break, "BREAK"), (Token.continue, "CONTINUE"), (Token.var, "VAR"),
  (Token.with, "WITH"), (Token.catch, "CATCH"), (Token.finally, "FINALLY"), (Token.void, "VOID"),
  (Token.reserved, "RESERVED"), (Token.empty, "EMPTY"), (Token.block, "BLOCK"),
  (Token.label, "LABEL"), (Token.target, "TARGET"), (Token.loop, "LOOP"),
  (Token.exprVoid, "EXPR_VOID"), (Token.exprResult, "EXPR_RESULT"), (Token.jumpSubroutine, "JSR"),
  (Token.script, "SCRIPT"), (Token.typeofName, "TYPEOFNAME"), (Token.useStack, "USE_STACK"),
  (Token.setPropOp, "SETPROP_OP"), (Token.setElemOp, "SETELEM_OP"),
  (Token.localBlock, "LOCAL_BLOCK"), (Token.setRefOp, "SET_REF_OP"), (Token.dotDot, "DOTDOT"),
  (Token.colonColon, "COLONCOLON"), (Token.xml, "XML"), (Token.dotQuery, "DOTQUERY"),
  (Token.xmlAttr, "XMLATTR"), (Token.xmlEnd, "XMLEND"), (Token.toObject, "TO_OBJECT"),
  (Token.toDouble, "TO_DOUBLE"), (Token.get, "GET"), (Token.set, "SET"), (Token.let, "LET"),
  (Token.const, "CONST"), (Token.setConst, "SETCONST"), (Token.setConstVar, "SETCONSTVAR"),
  (Token.arrayComp, "ARRAYCOMP"), (Token.letExpr, "LETEXPR"), (Token.withExpr, "WITHEXPR"),
  (Token.debugger, "DEBUGGER"), (Token.comment, "COMMENT"), (Token.genExpr, "GENEXPR")]

/-- A slot for each position of the code space. -/
abbrev NameTable := Array (Option String)

namespace NameTable

def empty : NameTable := Array.replicate CodeSpace.size none

/-- Puts a name at the position of its code, if the code has a position that is still free. -/
def place? (table : NameTable) (entry : Code × String) : Option NameTable := do
  let i ← CodeSpace.position? entry.1
  if table[i]? = some none then some (table.setIfInBounds i (some entry.2)) else none

def fill? (table : NameTable) (entries : List (Code × String)) : Option NameTable :=
  entries.foldlM place? table

/-- Only the last slot may stay free. -/
def isFull (table : NameTable) : Bool := table.toList.dropLast.all Option.isSome

/-- The table of a list of names, if they are one name for each code but the last. -/
def ofList? (entries : List (Code × String)) : Option NameTable :=
  (fill? empty entries).filter isFull

def find? (table : NameTable) (c : Code) : Option String :=
  (CodeSpace.position? c).bind fun i => table[i]?.join

theorem isSome_ofList?_named : (ofList? Token.named).isSome = true := by decide +kernel

end NameTable

def Token.nameTable : NameTable :=
  (NameTable.ofList? Token.named).get NameTable.isSome_ofList?_named

namespace Code

def name? (c : Code) : Option String := Token.nameTable.find? c

def name (c : Code) : Except UnknownCode String :=
  match c.name? with
  | some n => .ok n
  | none => .error ⟨c⟩

def display (c : Code) : String :=
  match c.name? with
  | some n => n
  | none => c.decimal

def label (c : Code) : String := c.name?.getD "TokenCode"

def debug (c : Code) : String := c.label ++ "(" ++ c.decimal ++ ")"

end Code

end ScriptLexicon
