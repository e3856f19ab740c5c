/-!
# Queries about the catalog

The queries that are sent to a database to find out about its schema. Their values are passed beside
their text.
-/

namespace MigrationPreview

/-- A query with the values of its parameters. -/
structure Query where
  text : String
  parameters : List String
  deriving DecidableEq

namespace Query

/-- A query whose text is given in pieces, between which spaces stand. -/
def ofPieces (pieces parameters : List String) : Query := ⟨" ".intercalate pieces, parameters⟩

/-- The character set and the collation of the database. -/
def settings : Query := ofPieces [
    "SELECT pg_encoding_to_char(d.encoding)::text AS charset,",
    "d.datcollate::text AS collation FROM pg_database d",
    "WHERE d.datname = current_database()"]
  []

/-- The names of all base tables of a schema. -/
def tableList (schema : String) : Query := ofPieces [
    "SELECT t.table_name FROM information_schema.tables t WHERE t.table_schema = $1",
    "AND t.table_type = 'BASE TABLE' ORDER BY t.table_name"]
  [schema]

/-- Whether a schema has a base table of a given name. -/
def tableFound (schema table : String) : Query := ofPieces [
    "SELECT EXISTS ( SELECT 1 FROM information_schema.tables t",
    "WHERE t.table_schema = $1 AND t.table_name = $2 AND t.table_type = 'BASE TABLE'",
    ") AS found"]
  [schema, table]

/-- Whether a table has a column of a given name. -/
def columnFound (schema table column : String) : Query := ofPieces [
    "SELECT EXISTS ( SELECT 1 FROM information_schema.columns c",
    "WHERE c.table_schema = $1 AND c.table_name = $2 AND c.column_name = $3 ) AS found"]
  [schema, table, column]

/-- The names of the other tables whose foreign keys refer to a table. -/
def referencingTables (schema table : String) : Query := ofPieces [
    "SELECT DISTINCT tc.table_name FROM information_schema.table_constraints tc",
    "JOIN information_schema.constraint_column_usage ccu",
    "ON tc.constraint_name = ccu.constraint_name",
    "AND tc.table_schema = ccu.constraint_schema WHERE tc.constraint_type = 'FOREIGN KEY'",
    "AND ccu.table_schema = $1 AND ccu.table_name = $2 AND tc.table_name <> $2",
    "ORDER BY tc.table_name"]
  [schema, table]

/-- The columns of a table in their ordinal order. -/
def columns (schema table : String) : Query := ofPieces [
    "SELECT c.column_name, c.data_type, c.is_nullable, c.column_default,",
    "c.ordinal_position FROM information_schema.columns c",
    "WHERE c.table_schema = $1 AND c.table_name = $2 ORDER BY c.ordinal_position"]
  [schema, table]

/-- The indexes of a table by name, with their columns in order. -/
def indexes (schema table : String) : Query := ofPieces [
    "SELECT i.relname::text as index_name,",
    "COALESCE(array_agg(a.attname::text ORDER BY array_position(ix.indkey, a.attnum)),",
    "ARRAY[]::text[]) as columns, ix.indisunique as is_unique,",
    "ix.indisprimary as is_primary FROM pg_class t",
    "JOIN pg_index ix ON t.oid = ix.indrelid JOIN pg_class i ON i.oid = ix.indexrelid",
    "JOIN pg_namespace n ON n.oid = t.relnamespace",
    "JOIN pg_attribute a ON a.attrelid = t.oid AND a.attnum = ANY(ix.indkey)",
    "WHERE n.nspname = $1 AND t.relname = $2 AND t.relkind = 'r'",
    "GROUP BY i.relname, ix.indisunique, ix.indisprimary ORDER BY i.relname"]
  [schema, table]

/-- The foreign keys of a table by name. -/
def foreignKeys (schema table : String) : Query := ofPieces [
    "SELECT tc.constraint_name::text as constraint_name,",
    "COALESCE(array_agg(DISTINCT kcu.column_name::text), ARRAY[]::text[]) as columns,",
    "ccu.table_name::text as referenced_table,",
    "COALESCE(array_agg(DISTINCT ccu.column_name::text), ARRAY[]::text[]) as",
    "referenced_columns, rc.update_rule::text as on_update,",
    "rc.delete_rule::text as on_delete FROM information_schema.table_constraints tc",
    "JOIN information_schema.key_column_usage kcu",
    "ON tc.constraint_name = kcu.constraint_name AND tc.table_schema = kcu.table_schema",
    "JOIN information_schema.constraint_column_usage ccu",
    "ON tc.constraint_name = ccu.constraint_name",
    "AND tc.table_schema = ccu.constraint_schema",
    "JOIN information_schema.referential_constraints rc",
    "ON tc.constraint_name = rc.constraint_name",
    "AND tc.table_schema = rc.constraint_schema WHERE tc.constraint_type = 'FOREIGN KEY'",
    "AND tc.table_schema = $1 AND tc.table_name = $2",
    "GROUP BY tc.constraint_name, ccu.table_name, rc.update_rule, rc.delete_rule",
    "ORDER BY tc.constraint_name"]
  [schema, table]

end Query

end MigrationPreview
