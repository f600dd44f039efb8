/-!
The names under which constants, types and operations are offered.
-/

namespace VoxelGrid.Catalogue

def constants : List String :=
  ["__version__", "CHUNK_POWER_X", "CHUNK_POWER_Y", "CHUNK_POWER_Z", "MAX_CHUNK_POWER", "KEY_BITS",
    "KEY_MAX"]

def powersOfTwo : List String :=
  ["ceil_power_of_two", "is_power_of_two", "size_of_power", "chunk_mask", "exponent_for_size"]

def layouts : List String :=
  ["ChunkLayout", "DEFAULT_LAYOUT", "PRESET_LAYOUTS", "get_preset", "list_presets"]

def addresses : List String :=
  ["Address", "chunk_index", "local_offset", "vertical_offset", "min_block", "max_block",
    "chunk_position", "block_position", "split", "chunk_region_around"]

def keys : List String :=
  ["KeyRangeError", "map_to_non_negative", "unmap_from_non_negative", "pair", "pair_checked",
    "unpair", "unpair_first", "unpair_second", "encode", "decode", "column_key",
    "column_from_key", "world_column_key"]

def batches : List String :=
  ["chunk_indices", "local_offsets", "chunk_positions", "block_positions",
    "map_to_non_negative_array", "unmap_from_non_negative_array", "encode_many", "decode_many"]

def all : List String := constants ++ powersOfTwo ++ layouts ++ addresses ++ keys ++ batches

end VoxelGrid.Catalogue
