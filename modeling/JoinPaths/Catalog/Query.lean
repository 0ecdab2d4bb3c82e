/-!
# The catalog query

The statement that lists the primary and foreign keys of the base tables of a schema, in the columns
that catalog rows are made of. The schema is its only parameter.
-/

namespace JoinPaths.Catalog

/-- The lines of the catalog query. -/
def constraintsQueryLines : List String :=
  [
    "WITH base_tables AS (",
    "  SELECT table_name",
    "  FROM information_schema.tables",
    "  WHERE table_schema = $1",
    "    AND table_type = 'BASE TABLE'",
    "),",
    "primary_keys AS (",
    "  SELECT",
    "    'primary' AS key_type,",
    "    tc.table_name,",
    "    kcu.column_name,",
    "    NULL AS foreign_table_name,",
    "    NULL AS foreign_column_name",
    "  FROM information_schema.table_constraints AS tc",
    "  JOIN information_schema.key_column_usage AS kcu",
    "    ON tc.constraint_name = kcu.constraint_name",
    "   AND tc.table_schema = kcu.table_schema",
    "  WHERE tc.constraint_type = 'PRIMARY KEY'",
    "    AND tc.table_schema = $1",
    "),",
    "foreign_keys AS (",
    "  SELECT",
    "    'foreign' AS key_type,",
    "    tc.table_name,",
    "    kcu.column_name,",
    "    ccu.table_name AS foreign_table_name,",
    "    ccu.column_name AS foreign_column_name",
    "  FROM information_schema.table_constraints AS tc",
    "  JOIN information_schema.key_column_usage AS kcu",
    "    ON tc.constraint_name = kcu.constraint_name",
    "   AND tc.table_schema = kcu.table_schema",
    "  JOIN information_schema.constraint_column_usage AS ccu",
    "    ON ccu.constraint_name = tc.constraint_name",
    "   AND ccu.table_schema = tc.table_schema",
    "  WHERE tc.constraint_type = 'FOREIGN KEY'",
    "    AND tc.table_schema = $1",
    ")",
    "SELECT pk.*",
    "FROM primary_keys pk",
    "JOIN base_tables bt",
    "  ON pk.table_name = bt.table_name",
    "UNION ALL",
    "SELECT fk.*",
    "FROM foreign_keys fk",
    "JOIN base_tables bt",
    "  ON fk.table_name = bt.table_name"]

/-- The catalog query. -/
def constraintsQuery : String :=
  "\n".intercalate constraintsQueryLines

end JoinPaths.Catalog
