import ScriptLexicon.CodeSpace

/-!
# The identifiers of the tokens

Every token has one identifier. Further identifiers mark the ends of two ranges, and one stands
for the size of the code space. They are read exactly, with upper and lower case told apart.
-/

namespace ScriptLexicon.Token

/-- The identifier of every token, `LAST_TOKEN` included, and the code it stands for. -/
def identifiers : List (String × Code) := [
  ("ERROR", Token.error), ("EOF", Token.endOfInput), ("EOL", Token.endOfLine),
  ("ENTERWITH", Token.enterWith), ("LEAVEWITH", Token.leaveWith), ("RETURN", Token.return),
  ("GOTO", Token.goto), ("IFEQ", Token.ifEq), ("IFNE", Token.ifNe), ("SETNAME", Token.setName),
  ("BITOR", Token.bitOr), ("BITXOR", Token.bitXor), ("BITAND", Token.bitAnd), ("EQ", Token.eq),
  ("NE", Token.ne), ("LT", Token.lt), ("LE", Token.le), ("GT", Token.gt), ("GE", Token.ge),
  ("LSH", Token.shiftLeft), ("RSH", Token.shiftRight), ("URSH", Token.shiftRightUnsigned),
  ("ADD", Token.add), ("SUB", Token.sub), ("MUL", Token.mul), ("DIV", Token.div),
  ("MOD", Token.mod), ("NOT", Token.not), ("BITNOT", Token.bitNot), ("POS", Token.plus),
  ("NEG", Token.minus), ("NEW", Token.new), ("DELPROP", Token.deleteProp),
  ("TYPEOF", Token.typeof), ("GETPROP", Token.getProp), ("GETPROPNOWARN", Token.getPropNoWarn),
  ("SETPROP", Token.setProp), ("GETELEM", Token.getElem), ("SETELEM", Token.setElem),
  ("CALL", Token.call), ("NAME", Token.name), ("NUMBER", Token.number), ("STRING", Token.string),
  ("NULL", Token.null), ("THIS", Token.this), ("FALSE", Token.false), ("TRUE", Token.true),
  ("SHEQ", Token.strictEq), ("SHNE", Token.strictNe), ("REGEXP", Token.regExp),
  ("BINDNAME", Token.bindName), ("THROW", Token.throw), ("RETHROW", Token.rethrow),
  ("IN", Token.in), ("INSTANCEOF", Token.instanceof), ("LOCAL_LOAD", Token.localLoad),
  ("GETVAR", Token.getVar), ("SETVAR", Token.setVar), ("CATCH_SCOPE", Token.catchScope),
  ("ENUM_INIT_KEYS", Token.enumInitKeys), ("ENUM_INIT_VALUES", Token.enumInitValues),
  ("ENUM_INIT_ARRAY", Token.enumInitArray), ("ENUM_NEXT", Token.enumNext),
  ("ENUM_ID", Token.enumId), ("THISFN", Token.thisFn), ("RETURN_RESULT", Token.returnResult),
  ("ARRAYLIT", Token.arrayLit), ("OBJECTLIT", Token.objectLit), ("GET_REF", Token.getRef),
  ("SET_REF", Token.setRef), ("DEL_REF", Token.delRef), ("REF_CALL", Token.refCall),
  ("REF_SPECIAL", Token.refSpecial), ("YIELD", Token.yield),
  ("STRICT_SETNAME", Token.strictSetName), ("DEFAULTNAMESPACE", Token.defaultNamespace),
  ("ESCXMLATTR", Token.escapeXmlAttr), ("ESCXMLTEXT", Token.escapeXmlText),
  ("REF_MEMBER", Token.refMember), ("REF_NS_MEMBER", Token.refNsMember),
  ("REF_NAME", Token.refName), ("REF_NS_NAME", Token.refNsName), ("TRY", Token.try),
  ("SEMI", Token.semicolon), ("LB", Token.leftBracket), ("RB", Token.rightBracket),
  ("LC", Token.leftBrace), ("RC", Token.rightBrace), ("LP", Token.leftParen),
  ("RP", Token.rightParen), ("COMMA", Token.comma), ("ASSIGN", Token.assign),
  ("ASSIGN_BITOR", Token.assignBitOr), ("ASSIGN_BITXOR", Token.assignBitXor),
  ("ASSIGN_BITAND", Token.assignBitAnd), ("ASSIGN_LSH", Token.assignShiftLeft),
  ("ASSIGN_RSH", Token.assignShiftRight), ("ASSIGN_URSH", Token.assignShiftRightUnsigned),
  ("ASSIGN_ADD", Token.assignAdd), ("ASSIGN_SUB", Token.assignSub),
  ("ASSIGN_MUL", Token.assignMul), ("ASSIGN_DIV", Token.assignDiv),
  ("ASSIGN_MOD", Token.assignMod), ("HOOK", Token.conditional), ("COLON", Token.colon),
  ("OR", Token.or), ("AND", Token.and), ("INC", Token.increment), ("DEC", Token.decrement),
  ("DOT", Token.dot), ("FUNCTION", Token.function), ("EXPORT", Token.export),
  ("IMPORT", Token.import), ("IF", Token.if), ("ELSE", Token.else), ("SWITCH", Token.switch),
  ("CASE", Token.case), ("DEFAULT", Token.default), ("WHILE", Token.while), ("DO", Token.do),
  ("FOR", Token.for), ("BREAK", Token.break), ("CONTINUE", Token.continue), ("VAR", Token.var),
  ("WITH", Token.with), ("CATCH", Token.catch), ("FINALLY", Token.finally), ("VOID", Token.void),
  ("RESERVED", Token.reserved), ("EMPTY", Token.empty), ("BLOCK", Token.block),
  ("LABEL", Token.label), ("TARGET", Token.target), ("LOOP", Token.loop),
  ("EXPR_VOID", Token.exprVoid), ("EXPR_RESULT", Token.exprResult),
  ("JSR", Token.jumpSubroutine), ("SCRIPT", Token.script), ("TYPEOFNAME", Token.typeofName),
  ("USE_STACK", Token.useStack), ("SETPROP_OP", Token.setPropOp),
  ("SETELEM_OP", Token.setElemOp), ("LOCAL_BLOCK", Token.localBlock),
  ("SET_REF_OP", Token.setRefOp), ("DOTDOT", Token.dotDot), ("COLONCOLON", Token.colonColon),
  ("XML", Token.xml), ("DOTQUERY", Token.dotQuery), ("XMLATTR", Token.xmlAttr),
  ("XMLEND", Token.xmlEnd), ("TO_OBJECT", Token.toObject), ("TO_DOUBLE", Token.toDouble),
  ("GET", Token.get), ("SET", Token.set), ("LET", Token.let), ("CONST", Token.const),
  ("SETCONST", Token.setConst), ("SETCONSTVAR", Token.setConstVar),
  ("ARRAYCOMP", Token.arrayComp), ("LETEXPR", Token.letExpr), ("WITHEXPR", Token.withExpr),
  ("DEBUGGER", Token.debugger), ("COMMENT", Token.comment), ("GENEXPR", Token.genExpr),
  ("LAST_TOKEN", Token.last)]

/-- Identifiers that mark where a range begins or ends. -/
def markers : List (String × Code) := [
  ("FIRST_BYTECODE_TOKEN", Token.firstOperation), ("LAST_BYTECODE_TOKEN", Token.lastOperation),
  ("FIRST_ASSIGN", Token.firstAssignment), ("LAST_ASSIGN", Token.lastAssignment)]

def find? (identifier : String) : Option Code :=
  (identifiers ++ markers).lookup identifier

/-- The number an identifier stands for: the value of its code, or the size of the code space. -/
def constant? (identifier : String) : Option Int :=
  if identifier = "COUNT" then some CodeSpace.size else (find? identifier).map Code.value

end ScriptLexicon.Token
